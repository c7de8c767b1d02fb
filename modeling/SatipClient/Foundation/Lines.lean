import SatipClient.Foundation.CString

/-!
# Words in lines of text

Searching a text that is made of lines.  A word without the bytes that end a line is found in one
of the lines, or behind them; it does not begin in one and end in the next.
-/

namespace SatipClient.CString

variable {needle front back : List UInt8} {lines : List (List UInt8)}

/-- Lines of text, each ended by a carriage return and a newline. -/
def ofLines (lines : List (List UInt8)) : List UInt8 := (lines.map (· ++ [13, 10])).flatten

/-- A word stays on its side of a byte that it does not contain. -/
theorem infix_append_cons_iff {separator : UInt8} (h : separator ∉ needle) :
    needle <:+: front ++ separator :: back ↔ needle <:+: front ∨ needle <:+: back := by
  constructor
  · rintro ⟨before, behind, hwhole⟩
    rw [List.append_assoc] at hwhole
    rcases List.append_eq_append_iff.mp hwhole with ⟨more, rfl, hmore⟩ | ⟨more, rfl, hmore⟩
    · rcases List.append_eq_append_iff.mp hmore with ⟨rest, rfl, hrest⟩ | ⟨rest, rfl, hrest⟩
      · exact Or.inl ⟨before, rest, by simp⟩
      · cases rest with
        | nil => exact Or.inl ⟨before, [], by simp⟩
        | cons byte rest =>
          obtain ⟨rfl, -⟩ : separator = byte ∧ back = rest ++ behind := by simpa using hrest
          exact absurd (by simp) h
    · cases more with
      | nil =>
        cases needle with
        | nil => exact Or.inl List.nil_infix
        | cons byte needle =>
          obtain ⟨rfl, -⟩ : separator = byte ∧ back = needle ++ behind := by simpa using hmore
          exact absurd (by simp) h
      | cons byte more =>
        obtain ⟨-, rfl⟩ : separator = byte ∧ back = more ++ (needle ++ behind) := by
          simpa using hmore
        exact Or.inr ⟨more, behind, by simp⟩
  · rintro (hfront | hback)
    · exact hfront.trans (List.prefix_append front _).isInfix
    · exact hback.trans ((List.suffix_cons separator back).trans
        (List.suffix_append front _)).isInfix

/-- A word that does not end a line is in one of the lines or behind them. -/
theorem infix_ofLines_append_iff (hcr : 13 ∉ needle) (hlf : 10 ∉ needle) (hne : needle ≠ []) :
    needle <:+: ofLines lines ++ back ↔ (∃ line ∈ lines, needle <:+: line) ∨ needle <:+: back := by
  induction lines with
  | nil => simp [ofLines]
  | cons line lines ih =>
    have hsplit : ofLines (line :: lines) ++ back =
        line ++ 13 :: ([] ++ 10 :: (ofLines lines ++ back)) := by
      simp [ofLines]
    have hnil : ¬needle <:+: [] := by
      rw [List.infix_nil]
      exact hne
    rw [hsplit, infix_append_cons_iff hcr, infix_append_cons_iff hlf, ih]
    simp [hnil, or_assoc]

/-! ## The first occurrence -/

theorem prefix_append_cons_iff {separator : UInt8} (h : separator ∉ needle) :
    needle <+: front ++ separator :: back ↔ needle <+: front := by
  refine ⟨fun hwhole ↦ ?_, fun hstarts ↦ hstarts.trans (List.prefix_append front _)⟩
  have hlength : needle.length ≤ front.length := by
    by_contra hlong
    obtain ⟨more, hmore⟩ := hwhole
    have hbyte : (needle ++ more)[front.length]? = some separator := by
      rw [hmore, List.getElem?_append_right (Nat.le_refl _), Nat.sub_self]
      rfl
    rw [List.getElem?_append_left (Nat.lt_of_not_le hlong)] at hbyte
    exact h (List.mem_of_getElem? hbyte)
  exact List.prefix_of_prefix_length_le hwhole (List.prefix_append front _) hlength

/-- The search starts anew behind a byte that is not in the word. -/
theorem strstr_append_cons {separator : UInt8} (h : separator ∉ needle) (hne : needle ≠ [])
    (hfront : ¬needle <:+: front) :
    strstr needle (front ++ separator :: back) = strstr needle back := by
  induction front with
  | nil =>
    rw [List.nil_append, strstr, if_neg]
    intro hstarts
    obtain ⟨first, rest, rfl⟩ := List.exists_cons_of_ne_nil hne
    rw [List.cons_prefix_cons] at hstarts
    exact h (by simp [hstarts.1])
  | cons byte front ih =>
    have hrest : ¬needle <:+: front := fun hin ↦
      hfront (hin.trans (List.suffix_cons byte front).isInfix)
    have hnot : ¬needle <+: byte :: (front ++ separator :: back) := by
      rw [← List.cons_append, prefix_append_cons_iff h]
      exact fun hstarts ↦ hfront hstarts.isInfix
    rw [List.cons_append, strstr, if_neg hnot, ih hrest]

/-- A word that is in none of the lines is searched behind them. -/
theorem strstr_ofLines_append (hcr : 13 ∉ needle) (hlf : 10 ∉ needle) (hne : needle ≠ [])
    (hlines : ∀ line ∈ lines, ¬needle <:+: line) :
    strstr needle (ofLines lines ++ back) = strstr needle back := by
  induction lines with
  | nil => rfl
  | cons line lines ih =>
    have hsplit : ofLines (line :: lines) ++ back =
        line ++ 13 :: ([] ++ 10 :: (ofLines lines ++ back)) := by
      simp [ofLines]
    have hnil : ¬needle <:+: [] := by
      rw [List.infix_nil]
      exact hne
    rw [hsplit, strstr_append_cons hcr hne (hlines line List.mem_cons_self),
      strstr_append_cons hlf hne hnil,
      ih fun other hother ↦ hlines other (List.mem_cons_of_mem line hother)]

/-- The first occurrence of a word. -/
theorem strstr_append_self (hne : needle ≠ []) (hfront : ¬needle <:+: front ++ needle.dropLast)
    (back : List UInt8) : strstr needle (front ++ (needle ++ back)) = some (needle ++ back) :=
  (strstr_eq_some_iff hne).mpr ⟨front, rfl, List.prefix_append needle back, hfront⟩

theorem ofLines_append (front back : List (List UInt8)) :
    ofLines (front ++ back) = ofLines front ++ ofLines back := by
  rw [ofLines, List.map_append, List.flatten_append, ofLines, ofLines]

theorem ofLines_cons (line : List UInt8) (lines : List (List UInt8)) :
    ofLines (line :: lines) = line ++ ([13, 10] ++ ofLines lines) := by
  rw [ofLines, List.map_cons, List.flatten_cons, List.append_assoc, ofLines]

/-- A word that occurs in one line alone is found there, with the rest of that line behind it. -/
theorem strstr_ofLines {line before behind : List UInt8} (hcr : 13 ∉ needle) (hlf : 10 ∉ needle)
    (hne : needle ≠ []) (hmem : line ∈ lines) (hline : line = before ++ (needle ++ behind))
    (hbefore : ¬needle <:+: before ++ needle.dropLast)
    (hothers : ∀ other ∈ lines, other ≠ line → ¬needle <:+: other) (back : List UInt8) :
    ∃ more, strstr needle (ofLines lines ++ back) =
      some (needle ++ (behind ++ 13 :: 10 :: more)) := by
  obtain ⟨first, last, rfl, hfirst⟩ := List.eq_append_cons_of_mem hmem
  refine ⟨ofLines last ++ back, ?_⟩
  have hwhole : ofLines (first ++ line :: last) ++ back =
      (ofLines first ++ before) ++ (needle ++ (behind ++ 13 :: 10 :: (ofLines last ++ back))) := by
    rw [ofLines_append, ofLines_cons, hline]
    simp
  rw [hwhole]
  apply strstr_append_self hne
  rw [List.append_assoc, infix_ofLines_append_iff hcr hlf hne, not_or]
  refine ⟨fun hin ↦ ?_, hbefore⟩
  obtain ⟨other, hother, hinfix⟩ := hin
  exact hothers other (by simp [hother]) (ne_of_mem_of_not_mem hother hfirst) hinfix

/-- A separator is searched behind the first occurrence of a word that does not contain it. -/
theorem strstr_bind_strchr_eq_some_iff {separator : UInt8} {s found : List UInt8}
    (hne : needle ≠ []) (hseparator : separator ∉ needle) :
    (strstr needle s).bind (strchr separator) = some found ↔
      ∃ front name rest, s = front ++ (needle ++ name ++ separator :: rest) ∧
        ¬needle <:+: front ++ needle.dropLast ∧ separator ∉ name ∧ found = separator :: rest := by
  simp only [Option.bind_eq_some_iff, strstr_eq_some_iff hne, strchr_eq_some_iff]
  constructor
  · rintro ⟨-, ⟨front, rfl, ⟨more, rfl⟩, hfirst⟩, named, rest, hnamed, hnone, rfl⟩
    -- The separator is behind the word, which has none.
    have hname : needle <+: named :=
      (prefix_append_cons_iff hseparator).mp (hnamed ▸ List.prefix_append needle more)
    obtain ⟨name, rfl⟩ := hname
    refine ⟨front, name, rest, by rw [hnamed], hfirst, ?_, rfl⟩
    exact fun hmem ↦ hnone (List.mem_append_right _ hmem)
  · rintro ⟨front, name, rest, rfl, hfirst, hname, rfl⟩
    refine ⟨_, ⟨front, rfl, ?_, hfirst⟩, needle ++ name, rest, rfl, ?_, rfl⟩
    · exact ⟨name ++ separator :: rest, by simp⟩
    · rw [List.mem_append, not_or]
      exact ⟨hseparator, hname⟩

end SatipClient.CString
