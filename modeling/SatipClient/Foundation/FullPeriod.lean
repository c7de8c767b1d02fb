import Mathlib.Data.Finset.Card
import Mathlib.Data.Nat.Prime.Basic
import Mathlib.Dynamics.PeriodicPts.Defs
import Mathlib.Order.Interval.Finset.Nat
import SatipClient.Foundation.LinearRegister

/-!
# Registers of full period

A linear register of `w` bits has at most `2 ^ w - 1` states other than zero.  One whose period is
that number runs through all of them (`exists_iterate_eq`).  The period is found with few steps: a
linear map is the list of its columns, which is squared to make twice as many steps (`leap`), and a
period is minimal when none of its quotients by a prime is one.
-/

namespace SatipClient.LinearRegister

open Function

variable {w : ℕ} {f : BitVec w → BitVec w}

/-! ## Leaps -/

/-- The images of the single bits. -/
def columns (f : BitVec w → BitVec w) : List (BitVec w) :=
  (List.range w).map fun i ↦ f (BitVec.twoPow w i)

/-- The sum of the columns whose bit is set, from bit `i` on. -/
def combineFrom : ℕ → List (BitVec w) → BitVec w → BitVec w
  | _, [], _ => 0#w
  | i, column :: columns, x =>
    (if x.getLsbD i then column else 0#w) ^^^ combineFrom (i + 1) columns x

/-- The linear map with these columns. -/
def combine (columns : List (BitVec w)) (x : BitVec w) : BitVec w := combineFrom 0 columns x

/-- As many steps of the map with these columns as the bits say, the lowest one first. -/
def leap : List (BitVec w) → List Bool → BitVec w → BitVec w
  | _, [], x => x
  | columns, bit :: bits, x =>
    leap (columns.map (combine columns)) bits (if bit then combine columns x else x)

/-- The number with these bits. -/
def count : List Bool → ℕ
  | [] => 0
  | bit :: bits => bit.toNat + 2 * count bits

/-- The lowest bit that is left. -/
theorem shiftLeft_ushiftRight_eq (x : BitVec w) (i : ℕ) :
    (x >>> i) <<< i =
      (if x.getLsbD i then BitVec.twoPow w i else 0#w) ^^^ ((x >>> (i + 1)) <<< (i + 1)) := by
  apply BitVec.eq_of_getLsbD_eq
  intro j hj
  have hbit : (if x.getLsbD i then BitVec.twoPow w i else 0#w).getLsbD j =
      (decide (j = i) && x.getLsbD i) := by
    cases hx : x.getLsbD i
    · simp
    · simp only [if_true, BitVec.getLsbD_twoPow, Bool.and_true]
      by_cases hji : j = i
      · subst hji
        simp [hj]
      · simp [hji, Ne.symm hji]
  rw [BitVec.getLsbD_xor, hbit]
  simp only [BitVec.getLsbD_shiftLeft, BitVec.getLsbD_ushiftRight, hj, decide_true, Bool.true_and]
  rcases Nat.lt_trichotomy j i with hlt | rfl | hgt
  · simp [hlt, hlt.ne, Nat.lt_succ_of_lt hlt]
  · simp
  · have hback : i + (j - i) = j := by omega
    have hnext : i + 1 + (j - (i + 1)) = j := by omega
    simp [hgt.ne', Nat.not_lt.mpr hgt.le, Nat.not_lt.mpr (Nat.succ_le_of_lt hgt), hback, hnext]

theorem Linear.combineFrom_eq (h : Linear f) (x : BitVec w) (n : ℕ) :
    ∀ i, i + n = w → combineFrom i ((List.range' i n).map fun j ↦ f (BitVec.twoPow w j)) x =
      f ((x >>> i) <<< i) := by
  induction n with
  | zero =>
    intro i hi
    have hnone : (x >>> i) <<< i = 0#w := by
      apply BitVec.eq_of_getLsbD_eq
      intro j hj
      have hji : j < i := by omega
      simp [hji]
    rw [hnone, h.map_zero]
    rfl
  | succ n ih =>
    intro i hi
    rw [List.range'_succ, List.map_cons, combineFrom, ih (i + 1) (by omega),
      shiftLeft_ushiftRight_eq x i, h]
    congr 1
    split
    · rfl
    · exact h.map_zero.symm

/-- A linear map is given by its columns. -/
theorem Linear.combine_columns (h : Linear f) : combine (columns f) = f := by
  funext x
  have hwhole := h.combineFrom_eq x w 0 (Nat.zero_add w)
  rw [combine, columns, List.range_eq_range', hwhole]
  simp

theorem Linear.columns_square (h : Linear f) :
    (columns f).map (combine (columns f)) = columns f^[2] := by
  rw [h.combine_columns, columns, columns, List.map_map]
  rfl

theorem Linear.leap_columns (h : Linear f) (bits : List Bool) (x : BitVec w) :
    leap (columns f) bits x = f^[count bits] x := by
  induction bits generalizing f x with
  | nil => rfl
  | cons bit bits ih =>
    have hstep : (if bit then combine (columns f) x else x) = f^[bit.toNat] x := by
      cases bit
      · rfl
      · rw [h.combine_columns]
        rfl
    rw [leap, hstep, h.columns_square, ih (h.iterate 2), count, ← iterate_mul,
      ← iterate_add_apply, Nat.add_comm]

/-! ## The period -/

/-- A period none of whose quotients by a prime is one is minimal. -/
theorem minimalPeriod_eq_of_prime {α : Type*} {f : α → α} {x : α} {n : ℕ}
    (hperiod : IsPeriodicPt f n x)
    (hprime : ∀ p, p.Prime → p ∣ n → ¬ IsPeriodicPt f (n / p) x) : minimalPeriod f x = n := by
  obtain ⟨k, hk⟩ := hperiod.minimalPeriod_dvd
  by_cases hone : k = 1
  · rw [hk, hone, Nat.mul_one]
  · exfalso
    obtain ⟨p, hp, m, rfl⟩ := Nat.exists_prime_and_dvd hone
    rw [Nat.mul_left_comm] at hk
    have hdiv : n / p = minimalPeriod f x * m := by
      rw [hk, Nat.mul_div_cancel_left _ hp.pos]
    apply hprime p hp ⟨_, hk⟩
    rw [hdiv]
    exact (isPeriodicPt_minimalPeriod f x).mul_const m

/-- A linear register never gets from a periodic state other than zero to zero. -/
theorem Linear.iterate_ne_zero (h : Linear f) {x : BitVec w} (hx : x ≠ 0#w) {n : ℕ} (hn : 0 < n)
    (hperiod : IsPeriodicPt f n x) (g : ℕ) : f^[g] x ≠ 0#w := by
  intro hzero
  apply hx
  have hback : f^[n * g - g] (f^[g] x) = x := by
    have hle : g ≤ n * g := Nat.le_mul_of_pos_left g hn
    rw [← iterate_add_apply, Nat.sub_add_cancel hle]
    exact hperiod.mul_const g
  rw [← hback, hzero]
  exact (h.iterate _).map_zero

/-- A register of full period runs through every state other than zero, and through each of them
once in a period. -/
theorem Linear.exists_iterate_eq (h : Linear f) {x : BitVec w} (hx : x ≠ 0#w)
    (hperiod : minimalPeriod f x = 2 ^ w - 1) {y : BitVec w} (hy : y ≠ 0#w) :
    ∃ g < 2 ^ w - 1, f^[g] x = y := by
  have hpos : 0 < 2 ^ w - 1 := by
    have hlt := y.isLt
    have hne : y.toNat ≠ 0 := fun hzero ↦ hy (BitVec.eq_of_toNat_eq (by simpa using hzero))
    omega
  have hperiodic : IsPeriodicPt f (2 ^ w - 1) x := hperiod ▸ isPeriodicPt_minimalPeriod f x
  let states := (Finset.range (2 ^ w - 1)).image fun g ↦ (f^[g] x).toNat
  have hcard : states.card = 2 ^ w - 1 := by
    rw [Finset.card_image_of_injOn, Finset.card_range]
    intro g hg g' hg' hsame
    rw [Finset.coe_range, ← hperiod] at hg hg'
    exact iterate_injOn_Iio_minimalPeriod hg hg' (BitVec.eq_of_toNat_eq hsame)
  have hsubset : states ⊆ Finset.Ico 1 (2 ^ w) := by
    intro state hstate
    obtain ⟨g, -, rfl⟩ := Finset.mem_image.mp hstate
    have hne : (f^[g] x).toNat ≠ 0 := fun hzero ↦
      h.iterate_ne_zero hx hpos hperiodic g (BitVec.eq_of_toNat_eq (by simpa using hzero))
    exact Finset.mem_Ico.mpr ⟨Nat.one_le_iff_ne_zero.mpr hne, (f^[g] x).isLt⟩
  have hall : states = Finset.Ico 1 (2 ^ w) := by
    apply Finset.eq_of_subset_of_card_le hsubset
    rw [hcard, Nat.card_Ico]
  have hmem : y.toNat ∈ states := by
    rw [hall, Finset.mem_Ico]
    have hlt := y.isLt
    have hne : y.toNat ≠ 0 := fun hzero ↦ hy (BitVec.eq_of_toNat_eq (by simpa using hzero))
    omega
  obtain ⟨g, hg, hstate⟩ := Finset.mem_image.mp hmem
  exact ⟨g, Finset.mem_range.mp hg, BitVec.eq_of_toNat_eq hstate⟩

end SatipClient.LinearRegister
