import Mathlib.Data.List.Nodup
import SatipClient.Foundation.QueryString

/-!
# Named parameters

A query string may be written from a list of parameters, each with its name and with a value that
may be missing.  Where the names differ, a reader finds under each name what was written there
(`find_render`), and no key is there twice (`nodup_keys_render`).  A value that is one of several is
written as its name in a table (`Names`).
-/

namespace SatipClient.QueryString

/-- A parameter: its name, and its value if it has one. -/
abbrev Parameter := String × Option String

/-- A parameter that has a value. -/
def param (name value : String) : String := "&" ++ name ++ "=" ++ value

/-- The text of a parameter. -/
def Parameter.text (p : Parameter) : String := p.2.elim "" (param p.1)

/-- The text of the parameters, in order. -/
def render (params : List Parameter) : String := params.foldr (fun p rest ↦ p.text ++ rest) ""

/-- The fields of a parameter. -/
def Parameter.fields (p : Parameter) : List (List Char) :=
  (p.2.map fun value ↦ p.1.toList ++ '=' :: value.toList).toList

/-- A letter, a digit, or one of the signs in a number or in a list of numbers. -/
def WordChar (char : Char) : Prop := char.isAlphanum = true ∨ char ∈ ['.', ',', '-']

instance : DecidablePred WordChar := fun char ↦
  inferInstanceAs (Decidable (char.isAlphanum = true ∨ char ∈ ['.', ',', '-']))

/-- A text without separators. -/
def IsWord (text : String) : Prop := ∀ char ∈ text.toList, WordChar char

instance (text : String) : Decidable (IsWord text) :=
  decidable_of_iff (text.toList.all (fun char ↦ decide (WordChar char)) = true)
    (by simp [IsWord, List.all_eq_true])

/-- Name and value can be told apart, and the parameter from its neighbours. -/
structure Parameter.Plain (p : Parameter) : Prop where
  name : IsWord p.1
  value : ∀ value ∈ p.2, IsWord value

/-- The value of the first field with this key. -/
def find (name : String) (fields : List (List Char)) : Option (List Char) :=
  (fields.find? fun field ↦ key field = name.toList).map value

variable {name value : String} {p : Parameter} {params : List Parameter}

/-- A name with the separators around it, as a program writes it. -/
theorem param_eq {whole : String} (h : whole = "&" ++ name ++ "=") (value : String) :
    whole ++ value = param name value := by
  rw [h, param]

@[simp]
theorem text_none (name : String) : Parameter.text (name, none) = "" := rfl

@[simp]
theorem text_some (name value : String) : Parameter.text (name, some value) = param name value :=
  rfl

@[simp]
theorem render_nil : render [] = "" := rfl

@[simp]
theorem render_cons (p : Parameter) (params : List Parameter) :
    render (p :: params) = p.text ++ render params := rfl

theorem render_append (params more : List Parameter) :
    render (params ++ more) = render params ++ render more := by
  induction params with
  | nil => rw [List.nil_append, render_nil, String.empty_append]
  | cons p params ih => rw [List.cons_append, render_cons, render_cons, ih, String.append_assoc]

theorem toList_param (name value : String) :
    (param name value).toList = '&' :: (name.toList ++ '=' :: value.toList) := by
  simp [param]

theorem joinable_text (p : Parameter) : Joinable p.text := by
  obtain ⟨name, value⟩ := p
  cases value with
  | none => exact Or.inl rfl
  | some value => exact Or.inr (by rw [text_some, toList_param]; rfl)

theorem joinable_render (params : List Parameter) : Joinable (render params) := by
  induction params with
  | nil => exact Or.inl rfl
  | cons p params ih => exact (joinable_text p).append ih

theorem IsWord.notMem {text : String} (h : IsWord text) {char : Char} (hchar : ¬WordChar char) :
    char ∉ text.toList := fun hmem ↦ hchar (h char hmem)

theorem IsWord.append {front back : String} (hfront : IsWord front) (hback : IsWord back) :
    IsWord (front ++ back) := by
  intro char hchar
  rw [String.toList_append, List.mem_append] at hchar
  exact hchar.elim (hfront char) (hback char)

theorem isDigit_of_not_wordChar {char : Char} (h : ¬WordChar char) : char.isDigit = false := by
  by_contra hdigit
  apply h
  left
  rw [Char.isAlphanum, Bool.or_eq_true]
  exact Or.inr (by simpa using hdigit)

theorem isWord_natRepr (n : ℕ) : IsWord (toString n) := by
  intro char hchar
  by_contra hnot
  exact notMem_natRepr (isDigit_of_not_wordChar hnot) n hchar

theorem isWord_intRepr (n : ℤ) : IsWord (toString n) := by
  intro char hchar
  by_contra hnot
  have hsign : char ≠ '-' := by
    rintro rfl
    exact hnot (by decide)
  exact notMem_intRepr (isDigit_of_not_wordChar hnot) hsign n hchar

/-- Names and values may be looked at separately. -/
theorem plain_of_names (hnames : ∀ name ∈ params.map Prod.fst, IsWord name)
    (hvalues : ∀ value ∈ params.map Prod.snd, ∀ text ∈ value, IsWord text) :
    ∀ p ∈ params, p.Plain :=
  fun _ hp ↦ ⟨hnames _ (List.mem_map_of_mem hp), hvalues _ (List.mem_map_of_mem hp)⟩

theorem Parameter.Plain.notMem (h : p.Plain) : '&' ∉ p.1.toList ∧ '=' ∉ p.1.toList :=
  ⟨h.name.notMem (by decide), h.name.notMem (by decide)⟩

theorem Parameter.Plain.fields_text (h : p.Plain) : QueryString.fields p.text = p.fields := by
  obtain ⟨name, value⟩ := p
  cases value with
  | none => rfl
  | some value =>
    apply fields_of_notMem (toList_param name value)
    rw [List.mem_append, List.mem_cons]
    exact not_or.mpr ⟨h.notMem.1,
      not_or.mpr ⟨by decide, (h.value value rfl).notMem (by decide)⟩⟩

theorem fields_render (h : ∀ p ∈ params, p.Plain) :
    fields (render params) = params.flatMap Parameter.fields := by
  induction params with
  | nil => rfl
  | cons p params ih =>
    rw [render_cons, fields_append (joinable_render params),
      (h p List.mem_cons_self).fields_text, ih fun q hq ↦ h q (List.mem_cons_of_mem p hq),
      List.flatMap_cons]

/-- The characters of a query string. -/
theorem mem_render (h : ∀ p ∈ params, p.Plain) {char : Char} (hchar : char ∈ (render params).toList) :
    WordChar char ∨ char = '&' ∨ char = '=' := by
  induction params with
  | nil => cases hchar
  | cons p params ih =>
    rw [render_cons, String.toList_append, List.mem_append] at hchar
    rcases hchar with hfirst | hrest
    · have hp : p.Plain := h p List.mem_cons_self
      obtain ⟨name, value⟩ := p
      cases value with
      | none => cases hfirst
      | some value =>
        rw [text_some, toList_param, List.mem_cons, List.mem_append, List.mem_cons] at hfirst
        rcases hfirst with rfl | hname | rfl | hvalue
        · exact Or.inr (Or.inl rfl)
        · exact Or.inl (hp.name char hname)
        · exact Or.inr (Or.inr rfl)
        · exact Or.inl (hp.value value rfl char hvalue)
    · exact ih (fun q hq ↦ h q (List.mem_cons_of_mem p hq)) hrest

/-! ## Reading -/

theorem find_append (name : String) (front back : List (List Char)) :
    find name (front ++ back) = (find name front).or (find name back) := by
  unfold find
  rw [List.find?_append]
  cases front.find? fun field ↦ key field = name.toList <;> rfl

theorem Parameter.Plain.find_fields (h : p.Plain) (name : String) :
    find name p.fields = if p.1 = name then p.2.map String.toList else none := by
  obtain ⟨own, value⟩ := p
  cases value with
  | none =>
    change none = _
    split <;> rfl
  | some value =>
    have hkey : key (own.toList ++ '=' :: value.toList) = own.toList := key_eq h.notMem.2 _
    have hvalue : QueryString.value (own.toList ++ '=' :: value.toList) = value.toList :=
      value_eq h.notMem.2 _
    change find name [own.toList ++ '=' :: value.toList] = _
    by_cases hname : own = name
    · subst hname
      rw [if_pos rfl, find, List.find?_cons_of_pos (by rw [hkey]; exact decide_eq_true rfl),
        Option.map_some, hvalue]
      rfl
    · have hne : ¬own.toList = name.toList := fun heq ↦ hname (String.toList_injective heq)
      rw [if_neg hname, find, List.find?_cons_of_neg (by rw [hkey]; simpa using hne)]
      rfl

/-- Under a name that is not written, nothing is found. -/
theorem find_render_of_notMem (h : ∀ p ∈ params, p.Plain) (hname : name ∉ params.map Prod.fst) :
    find name (fields (render params)) = none := by
  rw [fields_render h]
  induction params with
  | nil => rfl
  | cons p params ih =>
    rw [List.map_cons, List.mem_cons, not_or] at hname
    rw [List.flatMap_cons, find_append, (h p List.mem_cons_self).find_fields,
      if_neg (Ne.symm hname.1), ih (fun q hq ↦ h q (List.mem_cons_of_mem p hq)) hname.2]
    rfl

/-- Under a name, the value that was written is found. -/
theorem find_render (h : ∀ p ∈ params, p.Plain) (hnodup : (params.map Prod.fst).Nodup)
    {value : Option String} (hmem : (name, value) ∈ params) :
    find name (fields (render params)) = value.map String.toList := by
  rw [fields_render h]
  induction params with
  | nil => cases hmem
  | cons p params ih =>
    have hrest : ∀ q ∈ params, q.Plain := fun q hq ↦ h q (List.mem_cons_of_mem p hq)
    rw [List.map_cons, List.nodup_cons] at hnodup
    rw [List.flatMap_cons, find_append, (h p List.mem_cons_self).find_fields]
    rcases List.mem_cons.mp hmem with rfl | hmem
    · have hnone : find name (params.flatMap Parameter.fields) = none := by
        rw [← fields_render hrest]
        exact find_render_of_notMem hrest hnodup.1
      rw [if_pos rfl, hnone, Option.or_none]
    · have hne : p.1 ≠ name := by
        rintro rfl
        exact hnodup.1 (List.mem_map.mpr ⟨_, hmem, rfl⟩)
      rw [if_neg hne, ih hrest hnodup.2 hmem]
      rfl

theorem Parameter.Plain.keys_fields (h : p.Plain) :
    List.Sublist (p.fields.map key) [p.1.toList] := by
  obtain ⟨name, value⟩ := p
  cases value with
  | none => exact List.nil_sublist _
  | some value =>
    change List.Sublist [key (name.toList ++ '=' :: value.toList)] [name.toList]
    rw [key_eq h.notMem.2]

/-- No key is there twice. -/
theorem nodup_keys_render (h : ∀ p ∈ params, p.Plain) (hnodup : (params.map Prod.fst).Nodup) :
    ((fields (render params)).map key).Nodup := by
  have hsub : List.Sublist ((params.flatMap Parameter.fields).map key)
      ((params.map Prod.fst).map String.toList) := by
    clear hnodup
    induction params with
    | nil => exact List.nil_sublist _
    | cons p params ih =>
      rw [List.flatMap_cons, List.map_append]
      exact List.Sublist.append (h p List.mem_cons_self).keys_fields
        (ih fun q hq ↦ h q (List.mem_cons_of_mem p hq))
  rw [fields_render h]
  have hinjective : Function.Injective String.toList := fun _ _ ↦ String.toList_injective
  exact (hnodup.map hinjective).sublist hsub

/-! ## Tables of names -/

/-- Values with their names. -/
structure Names (α : Type*) where
  cases : List (α × String)
  distinct : (cases.map Prod.snd).Nodup
  plain : ∀ case ∈ cases, IsWord case.2

namespace Names

variable {α : Type*} (names : Names α)

/-- A value that has a name. -/
structure Value where
  val : α
  named : val ∈ names.cases.map Prod.fst

variable [DecidableEq α]

/-- The value, if it has a name. -/
def classify (value : α) : Option names.Value :=
  if h : value ∈ names.cases.map Prod.fst then some ⟨value, h⟩ else none

/-- The value that this text names. -/
def read (text : List Char) : Option names.Value :=
  (names.cases.find? fun case ↦ case.2.toList = text).bind fun case ↦ names.classify case.1

variable {names}

/-- The name of a value. -/
def Value.text (v : names.Value) : String := (names.cases.lookup v.val).getD ""

theorem classify_val (v : names.Value) : names.classify v.val = some v := dif_pos v.named

theorem classify_eq_none {value : α} (h : value ∉ names.cases.map Prod.fst) :
    names.classify value = none := dif_neg h

theorem Value.lookup_eq (v : names.Value) : names.cases.lookup v.val = some v.text := by
  obtain ⟨⟨value, text⟩, hmem, hvalue⟩ := List.mem_map.mp v.named
  have hsome : (names.cases.lookup v.val).isSome := by
    rw [List.lookup_isSome_iff]
    exact ⟨(value, text), hmem, by simpa using hvalue.symm⟩
  obtain ⟨found, hfound⟩ := Option.isSome_iff_exists.mp hsome
  rw [Value.text, hfound]
  rfl

theorem Value.mem_text (v : names.Value) : (v.val, v.text) ∈ names.cases := by
  have hsplit := List.lookup_eq_some_iff.mp v.lookup_eq
  generalize names.cases = cases, v.text = text at hsplit
  obtain ⟨front, back, rfl, _⟩ := hsplit
  simp

theorem Value.isWord (v : names.Value) : IsWord v.text := names.plain _ v.mem_text

/-- The name of a value is read as this value. -/
theorem read_text (v : names.Value) : names.read v.text.toList = some v := by
  have hsome : (names.cases.find? fun case ↦ case.2.toList = v.text.toList).isSome := by
    rw [List.find?_isSome]
    exact ⟨(v.val, v.text), v.mem_text, by simp⟩
  obtain ⟨case, hcase⟩ := Option.isSome_iff_exists.mp hsome
  have hmem : case ∈ names.cases := List.mem_of_find?_eq_some hcase
  have htext : case.2 = v.text := String.toList_injective (by simpa using List.find?_some hcase)
  -- the name says which case it is
  have hsame : case = (v.val, v.text) :=
    List.inj_on_of_nodup_map names.distinct hmem v.mem_text htext
  rw [read, hcase, Option.bind_some, hsame, classify_val]

theorem lookup_eq_classify (names : Names α) (value : α) :
    names.cases.lookup value = (names.classify value).map Value.text := by
  by_cases h : value ∈ names.cases.map Prod.fst
  · have hvalue : names.classify value = some ⟨value, h⟩ := dif_pos h
    rw [hvalue]
    exact Value.lookup_eq ⟨value, h⟩
  · rw [classify_eq_none h, Option.map_none, List.lookup_eq_none_iff]
    intro case hcase
    have hne : value ≠ case.1 := fun heq ↦ h (heq ▸ List.mem_map_of_mem hcase)
    simpa using hne

/-- A table of texts that are made of the names. -/
theorem lookup_map (names : Names α) (text : String → String) (value : α) :
    (names.cases.map fun case ↦ (case.1, text case.2)).lookup value =
      (names.classify value).map fun v ↦ text v.text := by
  have hmap (cases : List (α × String)) :
      (cases.map fun case ↦ (case.1, text case.2)).lookup value =
        (cases.lookup value).map text := by
    induction cases with
    | nil => rfl
    | cons case cases ih =>
      rw [List.map_cons, List.lookup_cons, List.lookup_cons, ih]
      split <;> rfl
  rw [hmap, lookup_eq_classify, Option.map_map]
  rfl

end Names

end SatipClient.QueryString
