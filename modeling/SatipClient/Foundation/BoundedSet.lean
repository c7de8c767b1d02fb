import Mathlib.Data.Finset.Card
import Mathlib.Data.Finset.Sort

/-!
# Sets of bounded size

A table with a fixed number of places, seen as the set of its entries: an entry that is not
there yet is taken in as long as a place is free, and dropped otherwise.  Entering a list takes
in all of it exactly when the table has room for everything.

The other way to keep a set within a bound is to drop its largest elements.  What is kept of a set
depends on the elements kept alone (`smallest_eq_of_subset`).
-/

namespace SatipClient.BoundedSet

open scoped List

variable {α : Type*} [DecidableEq α] (capacity : ℕ)

/-- Enter one element, if it is there already or a place is free. -/
def boundedInsert (s : Finset α) (a : α) : Finset α :=
  if a ∈ s ∨ s.card < capacity then insert a s else s

/-- Enter the elements of a list, one after the other. -/
def boundedUnion (s : Finset α) (l : List α) : Finset α := l.foldl (boundedInsert capacity) s

@[simp]
theorem boundedUnion_nil (s : Finset α) : boundedUnion capacity s [] = s := rfl

@[simp]
theorem boundedUnion_cons (s : Finset α) (a : α) (l : List α) :
    boundedUnion capacity s (a :: l) = boundedUnion capacity (boundedInsert capacity s a) l := rfl

variable {capacity} {s : Finset α}

theorem boundedInsert_of_room {a : α} (h : a ∈ s ∨ s.card < capacity) :
    boundedInsert capacity s a = insert a s := if_pos h

theorem boundedInsert_of_full {a : α} (h : a ∉ s) (hfull : capacity ≤ s.card) :
    boundedInsert capacity s a = s :=
  if_neg (not_or.mpr ⟨h, Nat.not_lt.mpr hfull⟩)

theorem subset_boundedInsert (s : Finset α) (a : α) : s ⊆ boundedInsert capacity s a := by
  unfold boundedInsert
  split
  · exact Finset.subset_insert a s
  · exact Finset.Subset.refl s

theorem card_boundedInsert_le (h : s.card ≤ capacity) (a : α) :
    (boundedInsert capacity s a).card ≤ capacity := by
  unfold boundedInsert
  split
  next hroom =>
    rcases hroom with hmem | hlt
    · rwa [Finset.insert_eq_of_mem hmem]
    · exact (Finset.card_insert_le a s).trans hlt
  next => exact h

theorem subset_boundedUnion (s : Finset α) (l : List α) : s ⊆ boundedUnion capacity s l := by
  induction l generalizing s with
  | nil => exact Finset.Subset.refl s
  | cons a l ih => exact (subset_boundedInsert s a).trans (ih _)

theorem card_boundedUnion_le (h : s.card ≤ capacity) (l : List α) :
    (boundedUnion capacity s l).card ≤ capacity := by
  induction l generalizing s with
  | nil => exact h
  | cons a l ih => exact ih (card_boundedInsert_le h a)

/-- With room for everything, everything is taken in. -/
theorem boundedUnion_of_card_le {l : List α} (h : (s ∪ l.toFinset).card ≤ capacity) :
    boundedUnion capacity s l = s ∪ l.toFinset := by
  induction l generalizing s with
  | nil => simp
  | cons a l ih =>
    have hunion : s ∪ (a :: l).toFinset = insert a s ∪ l.toFinset := by
      rw [List.toFinset_cons, Finset.union_insert, Finset.insert_union]
    have hroom : a ∈ s ∨ s.card < capacity := by
      by_cases hmem : a ∈ s
      · exact Or.inl hmem
      · right
        calc
          s.card < (insert a s).card := by
            rw [Finset.card_insert_of_notMem hmem]
            exact Nat.lt_succ_self _
          _ ≤ (s ∪ (a :: l).toFinset).card := by
            rw [hunion]
            exact Finset.card_le_card Finset.subset_union_left
          _ ≤ capacity := h
    rw [boundedUnion_cons, boundedInsert_of_room hroom, hunion]
    rw [hunion] at h
    exact ih h

/-- A list is taken in as a whole exactly when there is room for everything. -/
theorem subset_boundedUnion_iff (hs : s.card ≤ capacity) (l : List α) :
    l.toFinset ⊆ boundedUnion capacity s l ↔ (s ∪ l.toFinset).card ≤ capacity := by
  constructor
  · intro hsubset
    calc
      (s ∪ l.toFinset).card ≤ (boundedUnion capacity s l).card :=
        Finset.card_le_card (Finset.union_subset (subset_boundedUnion s l) hsubset)
      _ ≤ capacity := card_boundedUnion_le hs l
  · intro hcard
    rw [boundedUnion_of_card_le hcard]
    exact Finset.subset_union_right

/-! ## The smallest elements -/

section Smallest

variable {α : Type*} [LinearOrder α] {n : ℕ} {s t : Finset α}

/-- The `n` smallest elements of a set, or all of them if there are no more. -/
def smallest (n : ℕ) (s : Finset α) : Finset α := ((s.sort (· ≤ ·)).take n).toFinset

theorem smallest_subset (n : ℕ) (s : Finset α) : smallest n s ⊆ s := by
  intro a ha
  have htaken := List.mem_of_mem_take (List.mem_toFinset.mp ha)
  exact (Finset.mem_sort _).mp htaken

theorem card_smallest_le (n : ℕ) (s : Finset α) : (smallest n s).card ≤ n := calc
  (smallest n s).card ≤ ((s.sort (· ≤ ·)).take n).length := List.toFinset_card_le _
  _ ≤ n := List.length_take_le _ _

theorem smallest_of_card_le (h : s.card ≤ n) : smallest n s = s := by
  rw [smallest, List.take_of_length_le (by rwa [Finset.length_sort]), Finset.sort_toFinset]

theorem card_smallest_of_le (h : n ≤ s.card) : (smallest n s).card = n := by
  have hnodup : ((s.sort (· ≤ ·)).take n).Nodup := (Finset.sort_nodup s _).take
  rw [smallest, List.toFinset_card_of_nodup hnodup, List.length_take, Finset.length_sort]
  exact Nat.min_eq_left h

/-- A subset keeps the order of its elements. -/
theorem filter_sort_of_subset (h : s ⊆ t) :
    (t.sort (· ≤ ·)).filter (· ∈ s) = s.sort (· ≤ ·) := by
  have hperm : (t.sort (· ≤ ·)).filter (· ∈ s) ~ s.sort (· ≤ ·) := by
    rw [List.perm_ext_iff_of_nodup ((Finset.sort_nodup t _).filter _) (Finset.sort_nodup s _)]
    intro a
    simpa using fun ha ↦ h ha
  exact hperm.eq_of_pairwise' ((Finset.pairwise_sort t (· ≤ ·)).filter _)
    (Finset.pairwise_sort s (· ≤ ·))

/-- What is kept of the larger set is kept of the smaller, as far as it has it. -/
theorem smallest_inter_subset (h : s ⊆ t) : smallest n t ∩ s ⊆ smallest n s := by
  have hprefix : ((t.sort (· ≤ ·)).take n).filter (· ∈ s) <+: (s.sort (· ≤ ·)).take n := by
    rw [List.prefix_take_iff, ← filter_sort_of_subset h]
    refine ⟨(List.take_prefix n _).filter _, ?_⟩
    exact (List.length_filter_le _ _).trans (List.length_take_le _ _)
  intro a ha
  obtain ⟨hkept, hmem⟩ := Finset.mem_inter.mp ha
  rw [smallest, List.mem_toFinset] at hkept ⊢
  exact hprefix.subset (List.mem_filter.mpr ⟨hkept, by simpa using hmem⟩)

/-- Elements that are not kept make no difference. -/
theorem smallest_eq_of_subset (h : s ⊆ t) (hkept : smallest n t ⊆ s) :
    smallest n s = smallest n t := by
  rcases Nat.le_total t.card n with hcard | hcard
  · rw [smallest_of_card_le hcard] at hkept
    rw [Finset.Subset.antisymm h hkept]
  · have hsubset : smallest n t ⊆ smallest n s := fun a ha ↦
      smallest_inter_subset h (Finset.mem_inter.mpr ⟨ha, hkept ha⟩)
    refine (Finset.eq_of_subset_of_card_le hsubset ?_).symm
    rw [card_smallest_of_le hcard]
    exact card_smallest_le n s

end Smallest

end SatipClient.BoundedSet
