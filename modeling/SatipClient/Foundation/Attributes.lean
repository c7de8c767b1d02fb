import Mathlib.Data.List.Basic
import Mathlib.Data.List.Nodup

/-!
# Lists of attributes

A list of attributes, each a name with a value, that is applied to a state one by one.  When one
name alone matters for a part of the state, this part comes from the values of that name, in order
(`foldl_part`), and from the last one when each replaces what was (`foldl_last`).
-/

namespace SatipClient.Attributes

variable {Name Value State Part : Type*} {attrs : List (Name × Value)}
  {apply : State → Name × Value → State}

/-- Attributes without effect may be left out. -/
theorem foldl_filter {p : Name × Value → Bool}
    (hidle : ∀ attr ∈ attrs, p attr = false → ∀ s, apply s attr = s) (s : State) :
    (attrs.filter p).foldl apply s = attrs.foldl apply s := by
  induction attrs generalizing s with
  | nil => rfl
  | cons attr attrs ih =>
    have hrest := ih fun other hother ↦ hidle other (List.mem_cons_of_mem attr hother)
    cases hp : p attr with
    | true => rw [List.filter_cons_of_pos hp, List.foldl_cons, List.foldl_cons, hrest]
    | false =>
      have hskip : ¬p attr = true := by simp [hp]
      rw [List.filter_cons_of_neg hskip, List.foldl_cons, hidle attr List.mem_cons_self hp, hrest]

variable [DecidableEq Name] {name : Name} {part : State → Part}

/-- With distinct keys, there is one entry for the key of an entry. -/
theorem filter_eq_singleton {Entry : Type*} {key : Entry → Name} {entry : Entry}
    {entries : List Entry} (h : (entries.map key).Nodup) (hmem : entry ∈ entries) :
    entries.filter (key · = key entry) = [entry] := by
  obtain ⟨front, back, rfl⟩ := List.append_of_mem hmem
  rw [List.map_append, List.map_cons, List.nodup_middle, List.nodup_cons] at h
  have hothers : ∀ other ∈ front ++ back, ¬decide (key other = key entry) = true := by
    intro other hother hsame
    apply h.1
    rw [← of_decide_eq_true hsame, ← List.map_append]
    exact List.mem_map_of_mem hother
  have hfront := List.filter_eq_nil_iff.mpr fun other hother ↦
    hothers other (List.mem_append_left back hother)
  have hback := List.filter_eq_nil_iff.mpr fun other hother ↦
    hothers other (List.mem_append_right front hother)
  rw [List.filter_append, List.filter_cons_of_pos (by simp), hfront, hback, List.nil_append]

/-- The values of a name, in order. -/
def values (name : Name) (attrs : List (Name × Value)) : List Value :=
  (attrs.filter (·.1 = name)).map Prod.snd

theorem values_cons_self (name : Name) (value : Value) (attrs : List (Name × Value)) :
    values name ((name, value) :: attrs) = value :: values name attrs := by
  simp [values]

theorem values_cons_of_ne {other : Name} (h : other ≠ name) (value : Value)
    (attrs : List (Name × Value)) :
    values name ((other, value) :: attrs) = values name attrs := by
  simp [values, h]

theorem mem_values_iff {value : Value} : value ∈ values name attrs ↔ (name, value) ∈ attrs := by
  simp [values]

/-- A part of the state that one name alone changes. -/
theorem foldl_part {change : Part → Value → Part}
    (happly : ∀ s attr, part (apply s attr) =
      if attr.1 = name then change (part s) attr.2 else part s)
    (attrs : List (Name × Value)) (s : State) :
    part (attrs.foldl apply s) = (values name attrs).foldl change (part s) := by
  induction attrs generalizing s with
  | nil => rfl
  | cons attr attrs ih =>
    rw [List.foldl_cons, ih, happly]
    split
    case isTrue hname =>
      subst hname
      rw [values_cons_self, List.foldl_cons]
    case isFalse hname => rw [values_cons_of_ne hname]

/-- Each value replaces what was. -/
theorem foldl_last (read : Value → Part) (vals : List Value) (init : Part) :
    vals.foldl (fun _ value ↦ read value) init = (vals.getLast?.map read).getD init := by
  induction vals generalizing init with
  | nil => rfl
  | cons value vals ih =>
    rw [List.foldl_cons, ih]
    cases vals with
    | nil => rfl
    | cons next vals =>
      obtain ⟨last, hlast⟩ : ∃ last, (next :: vals).getLast? = some last :=
        ⟨_, List.getLast?_eq_getLast_of_ne_nil (by simp)⟩
      rw [List.getLast?_cons_cons, hlast]
      rfl

end SatipClient.Attributes
