import Mathlib.Data.List.Basic
import Mathlib.Data.List.TakeWhile

/-!
# Splitting with `getline`

A stream is split by reading items with `std::getline` until it fails.  An item ends at a delimiter
or at the end of the stream, and nothing is read at the end of the stream; so a delimiter at the
end ends the last item and begins no other one.
-/

namespace SatipClient.Split

variable {α : Type*} {delim : α}

theorem notMem_intercalate {a : α} {separator : List α} {parts : List (List α)}
    (hseparator : a ∉ separator) (hparts : ∀ part ∈ parts, a ∉ part) :
    a ∉ separator.intercalate parts := by
  induction parts with
  | nil => simp
  | cons first parts ih =>
    have hfirst := hparts first List.mem_cons_self
    cases parts with
    | nil => simpa using hfirst
    | cons second parts =>
      have hrest := ih fun part hpart ↦ hparts part (List.mem_cons_of_mem first hpart)
      simp [List.intercalate_cons_cons, hfirst, hseparator, hrest]

variable [DecidableEq α]

/-- `std::getline`: the item, and what is left of the stream. -/
def getline (delim : α) : List α → Option (List α × List α)
  | [] => none
  | s => some (s.takeWhile (· ≠ delim), (s.dropWhile (· ≠ delim)).tail)

/-- The items that `getline` reads. -/
def split (delim : α) : List α → List (List α)
  | [] => []
  | c :: s =>
    if c = delim then [] :: split delim s
    else
      match split delim s with
      | [] => [[c]]
      | item :: items => (c :: item) :: items

example : split 44 [1, 2, 44, 44, 3, 44] = [[1, 2], [], [3]] := by decide

@[simp]
theorem split_nil (delim : α) : split delim [] = [] := rfl

theorem split_delim_cons (delim : α) (s : List α) :
    split delim (delim :: s) = [] :: split delim s :=
  if_pos rfl

/-- An item that is ended by a delimiter. -/
theorem split_append_cons {front : List α} (h : delim ∉ front) (s : List α) :
    split delim (front ++ delim :: s) = front :: split delim s := by
  induction front with
  | nil => exact split_delim_cons delim s
  | cons c front ih =>
    rw [List.mem_cons, not_or] at h
    rw [List.cons_append, split, if_neg (Ne.symm h.1), ih h.2]

/-- The last item, at the end of the stream. -/
theorem split_of_notMem {s : List α} (h : delim ∉ s) (hne : s ≠ []) : split delim s = [s] := by
  induction s with
  | nil => exact absurd rfl hne
  | cons c s ih =>
    rw [List.mem_cons, not_or] at h
    rw [split, if_neg (Ne.symm h.1)]
    cases s with
    | nil => rfl
    | cons d s => rw [ih h.2 (by simp)]

/-- Reading an item, and then the others. -/
theorem split_eq_getline (delim : α) (s : List α) :
    split delim s = match getline delim s with
      | none => []
      | some (item, rest) => item :: split delim rest := by
  cases s with
  | nil => rfl
  | cons c s =>
    rw [getline]
    dsimp only
    by_cases hmem : delim ∈ c :: s
    · obtain ⟨front, rest, heq, hfront⟩ := List.eq_append_cons_of_mem hmem
      have hall : ∀ x ∈ front, decide (x ≠ delim) = true := fun x hx ↦
        decide_eq_true (ne_of_mem_of_not_mem hx hfront)
      rw [heq, split_append_cons hfront, List.takeWhile_append_of_pos hall,
        List.dropWhile_append_of_pos hall]
      simp
    · have hall : ∀ x ∈ c :: s, decide (x ≠ delim) = true := fun x hx ↦
        decide_eq_true (ne_of_mem_of_not_mem hx hmem)
      rw [split_of_notMem hmem (by simp), List.takeWhile_eq_self_iff.mpr hall,
        List.dropWhile_eq_nil_iff.mpr hall]
      rfl
    · simp

/-- What was joined is split again, unless the last part is empty. -/
theorem split_intercalate {parts : List (List α)} (hparts : ∀ part ∈ parts, delim ∉ part)
    (hlast : parts.getLast? ≠ some []) : split delim ([delim].intercalate parts) = parts := by
  induction parts with
  | nil => rfl
  | cons part parts ih =>
    have hpart : delim ∉ part := hparts part List.mem_cons_self
    cases parts with
    | nil =>
      have hne : part ≠ [] := by simpa using hlast
      rw [List.intercalate_singleton, split_of_notMem hpart hne]
    | cons next parts =>
      have hrest := ih (fun other hother ↦ hparts other (List.mem_cons_of_mem part hother))
        (by simpa using hlast)
      rw [List.intercalate_cons_cons, List.append_assoc, List.singleton_append,
        split_append_cons hpart, hrest]

/-- Items that are all ended by a delimiter. -/
theorem split_flatten {parts : List (List α)} (hparts : ∀ part ∈ parts, delim ∉ part)
    (s : List α) :
    split delim ((parts.map (· ++ [delim])).flatten ++ s) = parts ++ split delim s := by
  induction parts with
  | nil => rfl
  | cons part parts ih =>
    have hpart : delim ∉ part := hparts part List.mem_cons_self
    have hrest := ih fun other hother ↦ hparts other (List.mem_cons_of_mem part hother)
    rw [List.map_cons, List.flatten_cons, List.append_assoc, List.append_assoc,
      List.singleton_append, split_append_cons hpart, hrest, List.cons_append]

end SatipClient.Split
