import Mathlib.Logic.Function.Iterate
import Mathlib.Data.List.Induction

/-!
# Linear shift registers

A register of `w` bits whose next state is linear in exclusive or.  A checksum register shifts to
the left and adds its polynomial for every bit that falls out (`shift`); fed with a message it
leaves a remainder that tells apart any two messages which differ within `w` consecutive bits
(`absorb_ne_of_burst`).
-/

namespace SatipClient.LinearRegister

variable {w : ℕ}

/-- The next state is linear in the state. -/
def Linear (f : BitVec w → BitVec w) : Prop := ∀ a b, f (a ^^^ b) = f a ^^^ f b

variable {f : BitVec w → BitVec w}

theorem Linear.map_zero (h : Linear f) : f 0#w = 0#w := by
  have hzero := h 0#w 0#w
  rwa [BitVec.xor_self, BitVec.xor_self] at hzero

theorem Linear.iterate (h : Linear f) (n : ℕ) : Linear f^[n] := by
  induction n with
  | zero => exact fun _ _ ↦ rfl
  | succ n ih =>
    intro a b
    rw [Function.iterate_succ_apply, Function.iterate_succ_apply, Function.iterate_succ_apply, h,
      ih]

/-- A register that no state but zero sends to zero keeps states apart. -/
theorem Linear.injective (h : Linear f) (hker : ∀ a, f a = 0#w → a = 0#w) :
    Function.Injective f := by
  intro a b hab
  rw [← BitVec.xor_eq_zero_iff]
  apply hker
  rw [h, hab, BitVec.xor_self]

/-! ## Checksum registers -/

/-- Shift out the top bit, and add the polynomial if it was set. -/
def shift (poly r : BitVec w) : BitVec w := if r.msb then (r <<< 1) ^^^ poly else r <<< 1

/-- Take in one bit of a message: it is added to the bit that is shifted out. -/
def absorbBit (poly r : BitVec w) (bit : Bool) : BitVec w :=
  if (r.msb ^^ bit) = true then (r <<< 1) ^^^ poly else r <<< 1

/-- Take in a message, its first bit first. -/
def absorb (poly r : BitVec w) (bits : List Bool) : BitVec w := bits.foldl (absorbBit poly) r

variable {poly r r' : BitVec w} {bit bit' : Bool} {bits bits' : List Bool}

theorem absorb_append (poly r : BitVec w) (bits bits' : List Bool) :
    absorb poly r (bits ++ bits') = absorb poly (absorb poly r bits) bits' := List.foldl_append

theorem absorbBit_xor (poly r r' : BitVec w) (bit bit' : Bool) :
    absorbBit poly (r ^^^ r') (bit ^^ bit') = absorbBit poly r bit ^^^ absorbBit poly r' bit' := by
  have hcancel : ∀ a b c : BitVec w, (a ^^^ c) ^^^ (b ^^^ c) = a ^^^ b := by
    intro a b c
    rw [BitVec.xor_assoc, BitVec.xor_comm b, ← BitVec.xor_assoc c, BitVec.xor_self,
      BitVec.zero_xor]
  have hbit : ((r ^^^ r').msb ^^ (bit ^^ bit')) = ((r.msb ^^ bit) ^^ (r'.msb ^^ bit')) := by
    rw [BitVec.msb_xor]
    cases r.msb <;> cases r'.msb <;> cases bit <;> cases bit' <;> rfl
  unfold absorbBit
  rw [hbit, BitVec.shiftLeft_xor_distrib]
  cases r.msb ^^ bit <;> cases r'.msb ^^ bit'
  · rfl
  · exact BitVec.xor_assoc _ _ _
  · simp only [Bool.xor_false, if_true, Bool.false_eq_true, if_false]
    rw [BitVec.xor_assoc, BitVec.xor_comm (r' <<< 1), ← BitVec.xor_assoc]
  · exact (hcancel _ _ _).symm

theorem absorbBit_false (poly r : BitVec w) : absorbBit poly r false = shift poly r := by
  unfold absorbBit shift
  rw [Bool.xor_false]

theorem linear_shift (poly : BitVec w) : Linear (shift poly) := by
  intro a b
  rw [← absorbBit_false, ← absorbBit_false, ← absorbBit_false, ← absorbBit_xor]
  rfl

/-- Bits above which nothing is set are only moved up. -/
theorem iterate_shift_of_clear (poly : BitVec w) {n : ℕ} (h : ∀ i < n, r.getMsbD i = false) :
    (shift poly)^[n] r = r <<< n := by
  induction n with
  | zero =>
    rw [BitVec.shiftLeft_zero]
    rfl
  | succ n ih =>
    have hmsb : (r <<< n).msb = false := by
      rw [BitVec.msb_eq_getMsbD_zero, BitVec.getMsbD_shiftLeft, Nat.zero_add]
      exact h n (Nat.lt_succ_self n)
    rw [Function.iterate_succ_apply', ih fun i hi ↦ h i (Nat.lt_succ_of_lt hi), shift, hmsb,
      if_neg Bool.false_ne_true, BitVec.shiftLeft_add]

/-- The register that holds these bits at its top. -/
def lead (w : ℕ) : List Bool → BitVec w
  | [] => 0#w
  | bit :: bits => (if bit then BitVec.twoPow w (w - 1) else 0#w) ^^^ (lead w bits >>> 1)

theorem getMsbD_topBit (w i : ℕ) :
    (BitVec.twoPow w (w - 1)).getMsbD i = (decide (i < w) && decide (i = 0)) := by
  rcases Nat.eq_zero_or_pos w with rfl | hw
  · simp
  · have htop : w - (w - 1) - 1 = 0 := by omega
    rw [BitVec.getMsbD_twoPow, htop, decide_eq_true (show w - 1 < w by omega), Bool.true_and]
    by_cases hi : i = 0
    · simp [hi, hw]
    · simp [hi]

theorem getMsbD_lead (w : ℕ) (bits : List Bool) (i : ℕ) :
    (lead w bits).getMsbD i = (decide (i < w) && bits[i]?.getD false) := by
  induction bits generalizing i with
  | nil => simp [lead]
  | cons bit bits ih =>
    have hbit : (if bit then BitVec.twoPow w (w - 1) else 0#w).getMsbD i =
        (decide (i < w) && (decide (i = 0) && bit)) := by
      cases bit
      · simp
      · rw [if_pos rfl, getMsbD_topBit, Bool.and_true]
    rw [lead, BitVec.getMsbD_xor, BitVec.getMsbD_ushiftRight, ih, hbit]
    cases i with
    | zero => simp
    | succ i =>
      by_cases hi : i + 1 < w
      · have hiw : i < w := Nat.lt_of_succ_lt hi
        simp [hi, hiw]
      · simp [hi]

theorem msb_lead_ushiftRight (w : ℕ) (bits : List Bool) : (lead w bits >>> 1).msb = false := by
  rw [BitVec.msb_eq_getMsbD_zero, BitVec.getMsbD_ushiftRight]
  simp

/-- A state with room for one more bit below is shifted out and in without loss. -/
theorem shift_lead_ushiftRight (poly : BitVec w) (h : bits.length < w) :
    shift poly (lead w bits >>> 1) = lead w bits := by
  rw [shift, msb_lead_ushiftRight, if_neg Bool.false_ne_true]
  apply BitVec.eq_of_getMsbD_eq
  intro i hi
  rw [BitVec.getMsbD_shiftLeft, BitVec.getMsbD_ushiftRight, getMsbD_lead, getMsbD_lead]
  by_cases hlast : i + 1 < w
  · simp [hlast, hi]
  · have hnone : bits[i]? = none := List.getElem?_eq_none (by omega)
    simp [hlast, hnone]

/-- A bit is taken in by adding it to the top bit. -/
theorem absorbBit_eq_shift (poly r : BitVec w) (bit : Bool) (hw : 0 < w) :
    absorbBit poly r bit = shift poly (r ^^^ if bit then BitVec.twoPow w (w - 1) else 0#w) := by
  cases bit with
  | false =>
    rw [absorbBit_false, if_neg Bool.false_ne_true, BitVec.xor_zero]
  | true =>
    have hmsb : (r ^^^ BitVec.twoPow w (w - 1)).msb = (r.msb ^^ true) := by
      rw [BitVec.msb_xor, BitVec.msb_eq_getMsbD_zero (BitVec.twoPow w (w - 1)), getMsbD_topBit,
        decide_eq_true hw]
      rfl
    have hout : BitVec.twoPow w (w - 1) <<< 1 = 0#w := by
      apply BitVec.eq_of_getMsbD_eq
      intro i _
      rw [BitVec.getMsbD_shiftLeft, getMsbD_topBit]
      simp
    rw [if_pos rfl, absorbBit, shift, hmsb, BitVec.shiftLeft_xor_distrib, hout, BitVec.xor_zero]

/-- A message that fits the register is added to its top. -/
theorem absorb_eq_iterate (poly r : BitVec w) (h : bits.length ≤ w) :
    absorb poly r bits = (shift poly)^[bits.length] (r ^^^ lead w bits) := by
  induction bits generalizing r with
  | nil =>
    rw [lead, BitVec.xor_zero]
    rfl
  | cons bit bits ih =>
    have hbit := absorbBit_eq_shift poly r bit (Nat.zero_lt_of_lt h)
    have hstep : absorbBit poly r bit ^^^ lead w bits =
        shift poly (r ^^^ lead w (bit :: bits)) := by
      rw [lead, ← BitVec.xor_assoc, linear_shift, ← hbit, shift_lead_ushiftRight poly h]
    have hfirst : absorb poly r (bit :: bits) = absorb poly (absorbBit poly r bit) bits := rfl
    rw [hfirst, ih _ (Nat.le_of_succ_le h), hstep, List.length_cons, Function.iterate_succ_apply]

/-! ## What a checksum register tells apart -/

/-- A polynomial with a constant term loses nothing of the state. -/
theorem shift_injective (hpoly : poly.getLsbD 0 = true) : Function.Injective (shift poly) := by
  apply (linear_shift poly).injective
  intro r hzero
  unfold shift at hzero
  split at hzero
  case isTrue hmsb =>
    -- The constant term is left at the bottom.
    have hw : 0 < w := by
      by_contra hnone
      obtain rfl : w = 0 := by omega
      simp at hpoly
    have hlow : ((r <<< 1) ^^^ poly).getLsbD 0 = true := by
      simp [hpoly]
    rw [hzero] at hlow
    simp at hlow
  case isFalse hmsb =>
    apply BitVec.eq_of_getMsbD_eq
    intro i hi
    rw [BitVec.getMsbD_zero]
    cases i with
    | zero =>
      rw [← BitVec.msb_eq_getMsbD_zero]
      exact (Bool.not_eq_true _).mp hmsb
    | succ i =>
      have hbit := congrArg (fun state ↦ state.getMsbD i) hzero
      simpa using hbit

theorem absorb_injective (hpoly : poly.getLsbD 0 = true) (bits : List Bool) :
    Function.Injective fun r ↦ absorb poly r bits := by
  induction bits with
  | nil => exact fun _ _ hsame ↦ hsame
  | cons bit bits ih =>
    have hbit : Function.Injective fun r ↦ absorbBit poly r bit := by
      intro r r' hsame
      have hzero : shift poly (r ^^^ r') = shift poly 0#w := by
        rw [← absorbBit_false, ← Bool.xor_self bit, absorbBit_xor, BitVec.xor_eq_zero_iff.mpr hsame,
          (linear_shift poly).map_zero]
      exact BitVec.xor_eq_zero_iff.mp (shift_injective hpoly hzero)
    exact ih.comp hbit

/-- A message as long as the register empties it only if it is the contents of the register. -/
theorem absorb_eq_zero_iff (hpoly : poly.getLsbD 0 = true) (h : bits.length = w) :
    absorb poly r bits = 0#w ↔ r = lead w bits := by
  have hzero : (shift poly)^[bits.length] 0#w = 0#w := ((linear_shift poly).iterate _).map_zero
  rw [absorb_eq_iterate poly r (Nat.le_of_eq h)]
  constructor
  · intro habsorb
    rw [← BitVec.xor_eq_zero_iff]
    exact (shift_injective hpoly).iterate _ (habsorb.trans hzero.symm)
  · intro hsame
    rw [hsame, BitVec.xor_self, hzero]

theorem lead_injective (hlength : bits.length = bits'.length) (hshort : bits.length ≤ w)
    (h : lead w bits = lead w bits') : bits = bits' := by
  apply List.ext_getElem hlength
  intro i hi hi'
  have hbit := congrArg (fun state ↦ state.getMsbD i) h
  simpa [getMsbD_lead, hi, hi', Nat.lt_of_lt_of_le hi hshort] using hbit

/-- Two messages that differ, but within no more bits than the register has, leave different
remainders. -/
theorem absorb_ne_of_burst (hpoly : poly.getLsbD 0 = true) (r : BitVec w) (front back : List Bool)
    (hlength : bits.length = bits'.length) (hshort : bits.length ≤ w) (hne : bits ≠ bits') :
    absorb poly r (front ++ bits ++ back) ≠ absorb poly r (front ++ bits' ++ back) := by
  intro hsame
  rw [absorb_append, absorb_append, absorb_append, absorb_append] at hsame
  have hburst := absorb_injective hpoly back hsame
  have hshort' : bits'.length ≤ w := hlength ▸ hshort
  generalize absorb poly r front = start at hburst
  rw [absorb_eq_iterate poly start hshort, absorb_eq_iterate poly start hshort', ← hlength]
    at hburst
  have hlead := (shift_injective hpoly).iterate _ hburst
  rw [BitVec.xor_right_inj] at hlead
  exact hne (lead_injective hlength hshort hlead)

/-- The same for messages that agree outside of as many bits as the register has. -/
theorem absorb_ne_of_window (hpoly : poly.getLsbD 0 = true) (r : BitVec w)
    (hlength : bits.length = bits'.length) (hne : bits ≠ bits') (i : ℕ)
    (hsame : ∀ j, j < i ∨ i + w ≤ j → bits[j]? = bits'[j]?) :
    absorb poly r bits ≠ absorb poly r bits' := by
  have hfront : bits.take i = bits'.take i := by
    apply List.ext_getElem?
    intro j
    rw [List.getElem?_take, List.getElem?_take]
    split
    case isTrue hj => exact hsame j (Or.inl hj)
    case isFalse => rfl
  have hback : bits.drop (i + w) = bits'.drop (i + w) := by
    apply List.ext_getElem?
    intro j
    rw [List.getElem?_drop, List.getElem?_drop]
    exact hsame _ (Or.inr (Nat.le_add_right _ _))
  have hsplit : ∀ message : List Bool,
      message = message.take i ++ (message.drop i).take w ++ message.drop (i + w) := by
    intro message
    rw [List.append_assoc, ← List.drop_drop, List.take_append_drop, List.take_append_drop]
  have hwindow : (bits.drop i).take w ≠ (bits'.drop i).take w := by
    intro hwindow
    apply hne
    rw [hsplit bits, hsplit bits', hfront, hwindow, hback]
  rw [hsplit bits, hsplit bits', hfront, hback]
  apply absorb_ne_of_burst hpoly r _ _ ?_ ?_ hwindow
  · rw [List.length_take, List.length_take, List.length_drop, List.length_drop, hlength]
  · exact List.length_take_le _ _

end SatipClient.LinearRegister
