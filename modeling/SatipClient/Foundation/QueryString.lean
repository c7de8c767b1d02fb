import Mathlib.Data.Finset.Dedup
import Mathlib.Data.Finset.Sort

/-!
# Query strings

A query string is a list of fields `key=value` that are separated by `&`.  Texts that are empty
or begin with the separator may be put together: the fields of the whole are those of the parts
(`fields_append`).  A field may list numbers, separated by commas.
-/

namespace SatipClient.QueryString

/-- The fields of a text in which each is preceded by the separator. -/
def fields (text : String) : List (List Char) := (text.toList.splitOn '&').tail

/-- The part of a field before the first `=`. -/
def key (field : List Char) : List Char := field.takeWhile (· ≠ '=')

/-- The part of a field behind the first `=`. -/
def value (field : List Char) : List Char := (field.dropWhile (· ≠ '=')).tail

/-- The text is empty or begins with the separator. -/
def Joinable (text : String) : Prop := text = "" ∨ text.toList.head? = some '&'

instance (text : String) : Decidable (Joinable text) :=
  inferInstanceAs (Decidable (text = "" ∨ text.toList.head? = some '&'))

/-- The numbers in a list, in decimal. -/
def numbers (text : List Char) : List ℕ := (text.splitOn ',').map fun digits ↦
  Nat.ofDigitChars 10 digits 0

variable {front back text : String} {field : List Char}

theorem Joinable.cases (h : Joinable text) : text = "" ∨ ∃ rest, text.toList = '&' :: rest := by
  apply h.imp_right
  intro hhead
  cases hlist : text.toList with
  | nil => simp [hlist] at hhead
  | cons first rest =>
    rw [hlist, List.head?_cons, Option.some_inj] at hhead
    exact ⟨rest, by rw [hhead]⟩

@[simp]
theorem fields_empty : fields "" = [] := rfl

theorem fields_of_cons {rest : List Char} (h : text.toList = '&' :: rest) :
    fields text = rest.splitOn '&' := by
  rw [fields, h]
  exact congrArg List.tail (List.splitOn_append_cons_self [] rest)

/-- The fields of two texts put together. -/
theorem fields_append (h : Joinable back) :
    fields (front ++ back) = fields front ++ fields back := by
  rcases h.cases with rfl | ⟨rest, hrest⟩
  · simp
  · rw [fields_of_cons hrest, fields, String.toList_append, hrest, List.splitOn_append_cons_self,
      List.tail_append_of_ne_nil (List.splitOn_ne_nil _ _), fields]

theorem fields_ne_nil (h : Joinable text) (hne : text ≠ "") : fields text ≠ [] := by
  obtain ⟨rest, hrest⟩ := h.cases.resolve_left hne
  rw [fields_of_cons hrest]
  exact List.splitOn_ne_nil _ _

theorem Joinable.append (hfront : Joinable front) (hback : Joinable back) :
    Joinable (front ++ back) := by
  rcases hfront.cases with rfl | ⟨rest, hrest⟩
  · simpa using hback
  · right
    rw [String.toList_append, hrest]
    rfl

/-- A text with one separator, at its beginning, is one field. -/
theorem fields_of_notMem {rest : List Char} (h : text.toList = '&' :: rest) (hplain : '&' ∉ rest) :
    fields text = [rest] := by
  rw [fields_of_cons h, List.splitOn_eq_singleton hplain]

theorem forall_ne_of_notMem {name : List Char} (h : '=' ∉ name) :
    ∀ char ∈ name, decide (char ≠ '=') = true := by
  intro char hchar
  exact decide_eq_true (ne_of_mem_of_not_mem hchar h)

theorem key_eq {name : List Char} (h : '=' ∉ name) (rest : List Char) :
    key (name ++ '=' :: rest) = name := by
  unfold key
  rw [List.takeWhile_append_of_pos (forall_ne_of_notMem h)]
  simp

theorem value_eq {name : List Char} (h : '=' ∉ name) (rest : List Char) :
    value (name ++ '=' :: rest) = rest := by
  unfold value
  rw [List.dropWhile_append_of_pos (forall_ne_of_notMem h)]
  simp

/-- The key is settled by the first `=`. -/
theorem key_append (h : '=' ∈ field) (more : List Char) : key (field ++ more) = key field := by
  obtain ⟨name, rest, rfl, hname⟩ := List.eq_append_cons_of_mem h
  rw [List.append_assoc, List.cons_append, key_eq hname, key_eq hname]

/-- So is how the value begins. -/
theorem value_append (h : '=' ∈ field) (more : List Char) :
    value (field ++ more) = value field ++ more := by
  obtain ⟨name, rest, rfl, hname⟩ := List.eq_append_cons_of_mem h
  rw [List.append_assoc, List.cons_append, value_eq hname, value_eq hname]

/-! ## Parameters -/

/-- A text of parameters that are all of this kind. -/
def Params (Ok : List Char → Prop) (text : String) : Prop :=
  Joinable text ∧ ∀ field ∈ fields text, Ok field

section Params

variable {Ok Ok' : List Char → Prop}

instance [DecidablePred Ok] (text : String) : Decidable (Params Ok text) :=
  inferInstanceAs (Decidable (Joinable text ∧ ∀ field ∈ fields text, Ok field))

theorem Params.append (hfront : Params Ok front) (hback : Params Ok back) :
    Params Ok (front ++ back) := by
  refine ⟨hfront.1.append hback.1, fun field hfield ↦ ?_⟩
  rw [fields_append hback.1, List.mem_append] at hfield
  exact hfield.elim (hfront.2 field) (hback.2 field)

/-- A parameter is a name and a value. -/
theorem Params.append_param {name value : String} (hfront : Params Ok front)
    (hparam : Params Ok (name ++ value)) : Params Ok (front ++ name ++ value) := by
  rw [String.append_assoc]
  exact hfront.append hparam

theorem Params.mono (h : Params Ok text) (himp : ∀ field, Ok field → Ok' field) : Params Ok' text :=
  ⟨h.1, fun field hfield ↦ himp field (h.2 field hfield)⟩

theorem params_empty (Ok : List Char → Prop) : Params Ok "" := ⟨Or.inl rfl, by simp⟩

theorem params_ite (p : Prop) [Decidable p] (h : Params Ok text) :
    Params Ok (if p then text else "") := by
  split
  · exact h
  · exact params_empty Ok

/-- A text with one separator, at its beginning, is one parameter. -/
theorem params_of_notMem {rest : List Char} (h : text.toList = '&' :: rest) (hplain : '&' ∉ rest)
    (hok : Ok rest) : Params Ok text := by
  refine ⟨Or.inr (by rw [h]; rfl), fun field hfield ↦ ?_⟩
  rw [fields_of_notMem h hplain, List.mem_singleton] at hfield
  rwa [hfield]

/-- A name that begins with the separator, and a value. -/
theorem params_of_name {name value : String} (hname : name.toList.head? = some '&')
    (hplain : '&' ∉ name.toList.tail) (hvalue : '&' ∉ value.toList)
    (hok : Ok (name.toList.tail ++ value.toList)) : Params Ok (name ++ value) := by
  have hcons : name.toList = '&' :: name.toList.tail := by rw [List.cons_head?_tail hname]
  have hwhole : (name ++ value).toList = '&' :: (name.toList.tail ++ value.toList) := by
    rw [String.toList_append, hcons]
    rfl
  apply params_of_notMem hwhole _ hok
  rw [List.mem_append]
  exact not_or.mpr ⟨hplain, hvalue⟩

end Params

/-! ## Numbers -/

theorem natRepr_ne_nil (n : ℕ) : (toString n).toList ≠ [] := by
  rw [Nat.toString_eq_repr, Nat.toList_repr]
  exact Nat.toDigits_ne_nil

theorem intRepr_ne_nil (n : ℤ) : (toString n).toList ≠ [] := by
  cases n with
  | ofNat n => exact natRepr_ne_nil n
  | negSucc n =>
    rw [Int.toString_eq_repr, Int.repr, String.toList_append]
    simp

theorem notMem_natRepr {char : Char} (h : char.isDigit = false) (n : ℕ) :
    char ∉ (toString n).toList := by
  rw [Nat.toString_eq_repr, Nat.toList_repr]
  intro hmem
  have hdigit := Nat.isDigit_of_mem_toDigits (by decide) (by decide) hmem
  rw [h] at hdigit
  cases hdigit

theorem notMem_intRepr {char : Char} (h : char.isDigit = false) (hsign : char ≠ '-') (n : ℤ) :
    char ∉ (toString n).toList := by
  cases n with
  | ofNat n => exact notMem_natRepr h n
  | negSucc n =>
    have hrepr : (toString (Int.negSucc n)).toList = '-' :: (toString (n + 1)).toList := by
      rw [Int.toString_eq_repr, Int.repr, Nat.toString_eq_repr, String.toList_append]
      rfl
    rw [hrepr, List.mem_cons]
    exact not_or.mpr ⟨hsign, notMem_natRepr h (n + 1)⟩

/-- Reading a list of numbers that was written. -/
theorem numbers_intercalate {values : List ℕ} (h : values ≠ []) :
    numbers (String.intercalate "," (values.map toString)).toList = values := by
  have hplain : ∀ digits ∈ (values.map toString).map String.toList, ',' ∉ digits := by
    intro digits hdigits
    obtain ⟨text, htext, rfl⟩ := List.mem_map.mp hdigits
    obtain ⟨n, -, rfl⟩ := List.mem_map.mp htext
    exact notMem_natRepr rfl n
  have hread : ∀ n ∈ values, Nat.ofDigitChars 10 (toString n).toList 0 = n := by
    intro n _
    rw [Nat.toString_eq_repr, Nat.toList_repr]
    exact Nat.ofDigitChars_toDigits (by decide) (by decide)
  rw [numbers, String.toList_intercalate]
  calc
    _ = ((values.map toString).map String.toList).map
          fun digits ↦ Nat.ofDigitChars 10 digits 0 := by
      congr 1
      exact List.splitOn_intercalate ',' hplain (by simpa using h)
    _ = values.map id := by
      rw [List.map_map, List.map_map]
      exact List.map_congr_left hread
    _ = values := List.map_id values

end SatipClient.QueryString
