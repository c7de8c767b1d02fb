import Mathlib.Data.Finset.Dedup
import Mathlib.Data.Set.Finite.Basic
import SatipClient.Options.State

/-!
# Round trip of the configuration

A configuration is written with one line for each index: `index=name:value,name:value,...`, the
attributes in any order, and those that have the default value left out or not.  `load` makes the
same configuration of the file (`load_render`).
-/

namespace SatipClient.Options

open CString (ascii ofBytes atoi strtolIn IsNumeralIn IsDecimal IsInteger decimal ofDigits)
open Split (split)
open Attributes (values)

/-- The text does not contain what separates the parts of a file. -/
def Plain (text : List UInt8) : Prop := 10 ∉ text ∧ 44 ∉ text ∧ 58 ∉ text ∧ 61 ∉ text

/-- Options that can be written. -/
structure VtunerOpt.Writable (opt : VtunerOpt) : Prop where
  vtunerType : opt.vtunerType ≠ [] ∧ Plain opt.vtunerType
  ipaddr : opt.ipaddr ≠ [] ∧ Plain opt.ipaddr
  port : opt.port ≠ [] ∧ Plain opt.port
  feType : opt.feType = 0 ∨ opt.feType = 1 ∨ opt.feType = 2
  feNumber : -2 ^ 31 ≤ opt.feNumber ∧ opt.feNumber < 2 ^ 31
  caCaids : ∀ caid ∈ opt.caCaids, 1 ≤ caid ∧ caid ≤ 0xffff

/-- How a flag is written. -/
def flagText (flag : Bool) : List UInt8 := if flag then ascii "1" else ascii "0"

/-- A set of numbers is written in hexadecimal, in any order. -/
def IsCaids (caids : Finset ℤ) (text : List UInt8) : Prop :=
  ∃ numerals : List (List UInt8), (∀ numeral ∈ numerals, IsNumeralIn 16 numeral) ∧
    (numerals.map fun numeral ↦ (ofDigits 16 numeral : ℤ)).toFinset = caids ∧
    text = [59].intercalate numerals

/-- An attribute is there once with a text that says its value, or may be left out. -/
def Shows (isText : List UInt8 → Prop) (isDefault : Prop) (texts : List (List UInt8)) : Prop :=
  (∃ text, isText text ∧ texts = [text]) ∨ isDefault ∧ texts = []

/-- The names of the attributes. -/
def attrNames : List (List UInt8) :=
  [ascii "vtuner_type", ascii "ipaddr", ascii "port", ascii "tuner_type", ascii "fe",
    ascii "tcpdata", ascii "force_plts", ascii "ca_pids", ascii "ca_emm", ascii "ca_caids"]

/-- The attributes say what the options are. -/
structure Writes (opt : VtunerOpt) (attrs : List (List UInt8 × List UInt8)) : Prop where
  names : ∀ attr ∈ attrs, attr.1 ∈ attrNames
  vtunerType : Shows (· = opt.vtunerType) False (values (ascii "vtuner_type") attrs)
  ipaddr : Shows (· = opt.ipaddr) False (values (ascii "ipaddr") attrs)
  port : Shows (· = opt.port) False (values (ascii "port") attrs)
  feType : Shows (tunerTypeTable · = some opt.feType) False (values (ascii "tuner_type") attrs)
  feNumber : Shows (IsInteger · opt.feNumber) (opt.feNumber = 0) (values (ascii "fe") attrs)
  tcpdata : Shows (· = flagText opt.tcpdata) (opt.tcpdata = false) (values (ascii "tcpdata") attrs)
  forcePlts : Shows (· = flagText opt.forcePlts) (opt.forcePlts = false)
    (values (ascii "force_plts") attrs)
  caPids : Shows (· = flagText opt.caPids) (opt.caPids = false) (values (ascii "ca_pids") attrs)
  caEmm : Shows (· = flagText opt.caEmm) (opt.caEmm = true) (values (ascii "ca_emm") attrs)
  caCaids : Shows (IsCaids opt.caCaids) (opt.caCaids = ∅) (values (ascii "ca_caids") attrs)

/-- A line of the file. -/
structure ConfigLine where
  head : List UInt8
  opt : VtunerOpt
  attrs : List (List UInt8 × List UInt8)
  head_numeral : IsDecimal head ∧ decimal head < 2 ^ 31
  opt_writable : opt.Writable
  writes : Writes opt attrs

namespace ConfigLine

/-- The index of a line. -/
def index (line : ConfigLine) : ℤ := decimal line.head

/-- The texts of the attributes. -/
def items (line : ConfigLine) : List (List UInt8) :=
  line.attrs.map fun attr ↦ attr.1 ++ 58 :: attr.2

/-- The attributes, one after the other. -/
def body (line : ConfigLine) : List UInt8 := [44].intercalate line.items

/-- The text of a line. -/
def text (line : ConfigLine) : List UInt8 := line.head ++ 61 :: line.body

end ConfigLine

/-- A configuration: finitely many indices, not negative, with options that can be written. -/
structure IsConfig (config : ℤ → Option VtunerOpt) : Prop where
  finite : {index | config index ≠ none}.Finite
  index : ∀ index, config index ≠ none → 0 ≤ index ∧ index < 2 ^ 31
  writable : ∀ index opt, config index = some opt → opt.Writable

/-- The lines write the configuration, each index once. -/
structure Renders (config : ℤ → Option VtunerOpt) (lines : List ConfigLine) : Prop where
  once : (lines.map ConfigLine.index).Nodup
  config : ∀ index opt, config index = some opt ↔
    ∃ line ∈ lines, line.index = index ∧ line.opt = opt

/-- The file consists of these lines; the last one may not be ended. -/
def IsFile (lines : List ConfigLine) (text : List UInt8) : Prop :=
  text = (lines.map fun line ↦ line.text ++ [10]).flatten ∨
    text = [10].intercalate (lines.map ConfigLine.text)

variable {opt : VtunerOpt} {attrs : List (List UInt8 × List UInt8)} {text : List UInt8}

/-! ## Texts without separators -/

theorem Plain.append {front back : List UInt8} (hfront : Plain front) (hback : Plain back) :
    Plain (front ++ back) := by
  simp only [Plain, List.mem_append, not_or] at hfront hback ⊢
  tauto

theorem plain_of_isNumeralIn {base : ℕ} (h : IsNumeralIn base text) : Plain text := by
  refine ⟨?_, ?_, ?_, ?_⟩ <;>
  · intro hmem
    cases h.digit _ hmem

theorem plain_of_isInteger {value : ℤ} (h : IsInteger text value) : Plain text := by
  cases h with
  | nonneg hdigits => exact plain_of_isNumeralIn hdigits
  | neg hdigits =>
    have hsign : Plain [45] := by simp [Plain]
    exact hsign.append (plain_of_isNumeralIn hdigits)

theorem plain_intercalate {separator : UInt8} {parts : List (List UInt8)}
    (hseparator : Plain [separator]) (h : ∀ part ∈ parts, Plain part) :
    Plain ([separator].intercalate parts) :=
  ⟨Split.notMem_intercalate hseparator.1 fun part hpart ↦ (h part hpart).1,
    Split.notMem_intercalate hseparator.2.1 fun part hpart ↦ (h part hpart).2.1,
    Split.notMem_intercalate hseparator.2.2.1 fun part hpart ↦ (h part hpart).2.2.1,
    Split.notMem_intercalate hseparator.2.2.2 fun part hpart ↦ (h part hpart).2.2.2⟩

theorem plain_of_isCaids {caids : Finset ℤ} (h : IsCaids caids text) : Plain text := by
  obtain ⟨numerals, hnumerals, -, rfl⟩ := h
  have hseparator : Plain [59] := by simp [Plain]
  exact plain_intercalate hseparator fun numeral hnumeral ↦
    plain_of_isNumeralIn (hnumerals numeral hnumeral)

/-- A flag is written as a digit. -/
theorem plain_flagText (flag : Bool) : Plain (flagText flag) ∧ flagText flag ≠ [] := by
  cases flag <;>
  · unfold Plain
    decide

theorem plain_tunerType {number : ℤ} (h : tunerTypeTable text = some number) : Plain text := by
  unfold tunerTypeTable at h
  split_ifs at h with hsat hcable hterrestrial
  · subst hsat
    unfold Plain
    decide
  · subst hcable
    unfold Plain
    decide
  · subst hterrestrial
    unfold Plain
    decide

theorem plain_attrNames : ∀ name ∈ attrNames, Plain name := by
  unfold Plain
  decide

/-! ## What is written -/

section Written

variable {isText : List UInt8 → Prop} {isDefault : Prop} {texts : List (List UInt8)}
  {name value : List UInt8}

theorem Shows.of_mem (h : Shows isText isDefault texts) (hmem : text ∈ texts) : isText text := by
  rcases h with ⟨shown, hshown, rfl⟩ | ⟨-, rfl⟩
  · rw [List.mem_singleton.mp hmem]
    exact hshown
  · cases hmem

theorem isInteger_ne_nil {number : ℤ} (h : IsInteger text number) : text ≠ [] := by
  cases h with
  | nonneg hdigits => exact hdigits.ne_nil
  | neg => simp

/-- The values have no separators, and only a list of numbers may be empty. -/
theorem Writes.plain (h : Writes opt attrs) (hopt : opt.Writable) (hmem : (name, value) ∈ attrs) :
    Plain value ∧ (value = [] → name = ascii "ca_caids") := by
  have hvalue : value ∈ values name attrs := Attributes.mem_values_iff.mpr hmem
  have hname : name ∈ attrNames := h.names _ hmem
  simp only [attrNames, List.mem_cons, List.not_mem_nil, or_false] at hname
  rcases hname with rfl | rfl | rfl | rfl | rfl | rfl | rfl | rfl | rfl | rfl
  · rw [h.vtunerType.of_mem hvalue]
    exact hopt.vtunerType.symm.imp_right fun hne hnil ↦ absurd hnil hne
  · rw [h.ipaddr.of_mem hvalue]
    exact hopt.ipaddr.symm.imp_right fun hne hnil ↦ absurd hnil hne
  · rw [h.port.of_mem hvalue]
    exact hopt.port.symm.imp_right fun hne hnil ↦ absurd hnil hne
  · have htype := h.feType.of_mem hvalue
    refine ⟨plain_tunerType htype, fun hnil ↦ ?_⟩
    rw [hnil] at htype
    cases htype
  · have hnumber := h.feNumber.of_mem hvalue
    exact ⟨plain_of_isInteger hnumber, fun hnil ↦ absurd hnil (isInteger_ne_nil hnumber)⟩
  · rw [h.tcpdata.of_mem hvalue]
    exact (plain_flagText _).imp_right fun hne hnil ↦ absurd hnil hne
  · rw [h.forcePlts.of_mem hvalue]
    exact (plain_flagText _).imp_right fun hne hnil ↦ absurd hnil hne
  · rw [h.caPids.of_mem hvalue]
    exact (plain_flagText _).imp_right fun hne hnil ↦ absurd hnil hne
  · rw [h.caEmm.of_mem hvalue]
    exact (plain_flagText _).imp_right fun hne hnil ↦ absurd hnil hne
  · exact ⟨plain_of_isCaids (h.caCaids.of_mem hvalue), fun _ ↦ rfl⟩

end Written

/-! ## What is read -/

section Read

variable {Part : Type*} {name : List UInt8} {part : VtunerOpt → Part}
  {change : Part → List UInt8 → Part} {isText : List UInt8 → Prop} {isDefault : Prop}

/-- A part of the options is read right from the one text that is there, or from none. -/
theorem Governs.read (h : Governs name part change)
    (hshows : Shows isText isDefault (values name attrs))
    (htext : ∀ text, isText text → change (part {}) text = part opt)
    (hdefault : isDefault → part opt = part {}) :
    part (attrs.foldl applyAttr {}) = part opt := by
  rw [h.foldl]
  rcases hshows with ⟨text, hisText, heq⟩ | ⟨hisDefault, heq⟩
  · rw [heq]
    exact htext text hisText
  · rw [heq]
    exact (hdefault hisDefault).symm

theorem ite_flagText (flag : Bool) :
    (if flagText flag = ascii "1" then true else false) = flag := by
  cases flag <;> decide

theorem decide_flagText (flag : Bool) : decide (flagText flag = ascii "1") = flag := by
  cases flag <;> decide

/-- Numbers in hexadecimal are added, all of them. -/
theorem foldl_insertCaid {numerals : List (List UInt8)} {caids : Finset ℤ}
    (hnumerals : ∀ numeral ∈ numerals, IsNumeralIn 16 numeral)
    (hrange : ∀ numeral ∈ numerals, 1 ≤ ofDigits 16 numeral ∧ ofDigits 16 numeral ≤ 0xffff) :
    numerals.foldl insertCaid caids =
      caids ∪ (numerals.map fun numeral ↦ (ofDigits 16 numeral : ℤ)).toFinset := by
  induction numerals generalizing caids with
  | nil => simp
  | cons numeral numerals ih =>
    have hnumeral := hnumerals numeral List.mem_cons_self
    obtain ⟨hlow, hhigh⟩ := hrange numeral List.mem_cons_self
    have hread : strtolIn 16 (ofBytes numeral) = ofDigits 16 numeral := by
      rw [CString.ofBytes_numeral hnumeral, CString.strtolIn_numeral hnumeral (by omega)]
    have hinsert : insertCaid caids numeral = insert (ofDigits 16 numeral : ℤ) caids := by
      rw [insertCaid, if_neg hnumeral.ne_nil, hread]
      exact if_pos (by omega)
    rw [List.foldl_cons, ih (fun other hother ↦ hnumerals other (List.mem_cons_of_mem _ hother))
      (fun other hother ↦ hrange other (List.mem_cons_of_mem _ hother)), hinsert, List.map_cons,
      List.toFinset_cons]
    simp [Finset.insert_union, Finset.union_insert]

theorem caCaids_read {caids : Finset ℤ} (h : IsCaids caids text)
    (hrange : ∀ caid ∈ caids, 1 ≤ caid ∧ caid ≤ 0xffff) :
    (split 59 text).foldl insertCaid ∅ = caids := by
  obtain ⟨numerals, hnumerals, rfl, rfl⟩ := h
  have hplain : ∀ numeral ∈ numerals, (59 : UInt8) ∉ numeral := by
    intro numeral hnumeral hmem
    cases (hnumerals numeral hnumeral).digit 59 hmem
  have hlast : numerals.getLast? ≠ some [] := by
    intro hnil
    exact (hnumerals [] (List.mem_of_getLast? hnil)).ne_nil rfl
  have hbounds : ∀ numeral ∈ numerals,
      1 ≤ ofDigits 16 numeral ∧ ofDigits 16 numeral ≤ 0xffff := by
    intro numeral hnumeral
    have hcaid := hrange (ofDigits 16 numeral) (by simpa using ⟨numeral, hnumeral, rfl⟩)
    omega
  rw [Split.split_intercalate hplain hlast, foldl_insertCaid hnumerals hbounds, Finset.empty_union]

/-- The options are read from the attributes as they were written. -/
theorem foldl_applyAttr (h : Writes opt attrs) (hopt : opt.Writable) :
    attrs.foldl applyAttr {} = opt := by
  apply VtunerOpt.ext
  · exact governs_vtunerType.read h.vtunerType (fun _ htext ↦ htext) False.elim
  · exact governs_ipaddr.read h.ipaddr (fun _ htext ↦ htext) False.elim
  · refine governs_tcpdata.read h.tcpdata (fun text htext ↦ ?_) id
    rw [htext]
    exact ite_flagText _
  · refine governs_feType.read h.feType (fun text htext ↦ ?_) False.elim
    rw [typeNumber, htext, Option.getD_some]
  · refine governs_feNumber.read h.feNumber (fun text htext ↦ ?_) id
    rw [CString.ofBytes_isInteger htext]
    exact CString.atoi_of_isInteger htext hopt.feNumber.1 hopt.feNumber.2
  · refine governs_forcePlts.read h.forcePlts (fun text htext ↦ ?_) id
    rw [htext]
    exact ite_flagText _
  · exact governs_port.read h.port (fun _ htext ↦ htext) False.elim
  · refine governs_caPids.read h.caPids (fun text htext ↦ ?_) id
    rw [htext, decide_flagText]
  · refine governs_caEmm.read h.caEmm (fun text htext ↦ ?_) id
    rw [htext, decide_flagText]
  · exact governs_caCaids.read h.caCaids (fun text htext ↦ caCaids_read htext hopt.caCaids) id

end Read

/-! ## The lines -/

section Lines

variable {line : ConfigLine}

/-- An attribute with an empty value is not read. -/
theorem parseItem_attr {attr : List UInt8 × List UInt8} (hname : Plain attr.1)
    (hvalue : Plain attr.2) :
    parseItem (attr.1 ++ 58 :: attr.2) = if attr.2 ≠ [] then some attr else none := by
  have hsplit : split 58 (attr.1 ++ 58 :: attr.2) = attr.1 :: split 58 attr.2 :=
    Split.split_append_cons hname.2.2.1 attr.2
  unfold parseItem
  by_cases hnil : attr.2 = []
  · rw [hsplit, hnil]
    rfl
  · rw [hsplit, Split.split_of_notMem hvalue.2.2.1 hnil, if_pos hnil]

namespace ConfigLine

theorem plain_attr (line : ConfigLine) {attr : List UInt8 × List UInt8} (h : attr ∈ line.attrs) :
    Plain attr.1 ∧ Plain attr.2 :=
  ⟨plain_attrNames _ (line.writes.names attr h), (line.writes.plain line.opt_writable h).1⟩

theorem notMem_item {line : ConfigLine} {byte : UInt8} (hbyte : byte = 10 ∨ byte = 44 ∨ byte = 61)
    {item : List UInt8} (h : item ∈ line.items) : byte ∉ item := by
  obtain ⟨attr, hattr, rfl⟩ := List.mem_map.mp h
  obtain ⟨hname, hvalue⟩ := line.plain_attr hattr
  rw [List.mem_append, List.mem_cons, not_or, not_or]
  rcases hbyte with rfl | rfl | rfl
  · exact ⟨hname.1, by decide, hvalue.1⟩
  · exact ⟨hname.2.1, by decide, hvalue.2.1⟩
  · exact ⟨hname.2.2.2, by decide, hvalue.2.2.2⟩

/-- The body of a line does not contain the other separators. -/
theorem notMem_body {line : ConfigLine} {byte : UInt8} (hbyte : byte = 10 ∨ byte = 61) :
    byte ∉ line.body := by
  apply Split.notMem_intercalate
  · rcases hbyte with rfl | rfl <;> decide
  · intro item hitem
    apply notMem_item _ hitem
    tauto

theorem split_body (line : ConfigLine) : split 44 line.body = line.items := by
  apply Split.split_intercalate
  · exact fun item hitem ↦ notMem_item (Or.inr (Or.inl rfl)) hitem
  · intro hlast
    obtain ⟨attr, -, hnil⟩ := List.mem_map.mp (List.mem_of_getLast? hlast)
    simp at hnil

/-- There is an attribute, the type of the tuner for one. -/
theorem body_ne_nil (line : ConfigLine) : line.body ≠ [] := by
  intro hnil
  have hitems : line.items = [] := by
    rw [← split_body, hnil, Split.split_nil]
  have hattrs : line.attrs = [] := List.map_eq_nil_iff.mp hitems
  rcases line.writes.vtunerType with ⟨text, -, hshown⟩ | ⟨himpossible, -⟩
  · rw [hattrs] at hshown
    cases hshown
  · exact himpossible

theorem split_text (line : ConfigLine) : split 61 line.text = [line.head, line.body] := by
  have hhead : (61 : UInt8) ∉ line.head := (plain_of_isNumeralIn line.head_numeral.1).2.2.2
  rw [text, Split.split_append_cons hhead,
    Split.split_of_notMem (notMem_body (Or.inr rfl)) line.body_ne_nil]

theorem notMem_text (line : ConfigLine) : 10 ∉ line.text := by
  rw [text, List.mem_append, List.mem_cons, not_or, not_or]
  exact ⟨(plain_of_isNumeralIn line.head_numeral.1).1, by decide, notMem_body (Or.inl rfl)⟩

theorem filterMap_items (line : ConfigLine) :
    line.items.filterMap parseItem = line.attrs.filter (·.2 ≠ []) := by
  rw [items, List.filterMap_map, ← List.filterMap_eq_filter]
  apply List.filterMap_congr
  intro attr hattr
  obtain ⟨hname, hvalue⟩ := line.plain_attr hattr
  rw [Function.comp_apply, parseItem_attr hname hvalue]
  simp [Option.guard]

/-- A line is read as what it was written from. -/
theorem parseLine_text (line : ConfigLine) :
    parseLine line.text = some (line.index, line.attrs.filter (·.2 ≠ [])) := by
  have hindex : atoi (ofBytes line.head) = line.index := by
    obtain ⟨hhead, hint⟩ := line.head_numeral
    rw [CString.ofBytes_numeral hhead, index]
    exact CString.atoi_of_isInteger (.nonneg hhead) (by omega) (by omega)
  rw [parseLine, split_text]
  dsimp only
  rw [split_body, filterMap_items, hindex]

theorem foldl_attrs (line : ConfigLine) :
    (line.attrs.filter (·.2 ≠ [])).foldl applyAttr {} = line.opt := by
  rw [Attributes.foldl_filter, foldl_applyAttr line.writes line.opt_writable]
  intro attr hattr hempty opt
  have hnil : attr.2 = [] := by simpa using hempty
  have hname := (line.writes.plain line.opt_writable hattr).2 hnil
  obtain ⟨name, value⟩ := attr
  obtain rfl : value = [] := hnil
  obtain rfl : name = ascii "ca_caids" := hname
  rfl

end ConfigLine

end Lines

/-! ## The file -/

section File

variable {config : ℤ → Option VtunerOpt} {lines : List ConfigLine}

theorem split_file (h : IsFile lines text) : split 10 text = lines.map ConfigLine.text := by
  have hplain : ∀ line ∈ lines.map ConfigLine.text, (10 : UInt8) ∉ line := by
    intro line hline
    obtain ⟨source, -, rfl⟩ := List.mem_map.mp hline
    exact source.notMem_text
  rcases h with rfl | rfl
  · have hfile := Split.split_flatten hplain []
    rw [List.map_map, List.append_nil, Split.split_nil, List.append_nil] at hfile
    exact hfile
  · apply Split.split_intercalate hplain
    intro hlast
    obtain ⟨line, -, hnil⟩ := List.mem_map.mp (List.mem_of_getLast? hlast)
    simp [ConfigLine.text] at hnil

theorem ownLines_text (index : ℤ) (lines : List ConfigLine) :
    ownLines index (lines.map ConfigLine.text) =
      (lines.filter (·.index = index)).map ConfigLine.text := by
  rw [ownLines, List.filter_map]
  congr 1
  apply List.filter_congr
  intro line _
  rw [Function.comp_apply, line.parseLine_text]
  simp

/-- The entry of an index that one line alone has. -/
theorem load_of_mem (htext : IsFile lines text) (honce : (lines.map ConfigLine.index).Nodup)
    {line : ConfigLine} (hmem : line ∈ lines) : load (some text) line.index = some line.opt := by
  have hone : lines.filter (·.index = line.index) = [line] :=
    Attributes.filter_eq_singleton honce hmem
  have hlines : linesOf line.index text = [line.text] := by
    rw [linesOf, split_file htext, ownLines_text, hone, List.map_singleton]
  rw [load_eq, attrsOf, hlines, if_neg (by simp), attrsIn_cons line.parseLine_text]
  simp only [attrsIn, List.flatMap_nil, List.append_nil]
  rw [line.foldl_attrs]

theorem load_of_forall_ne (htext : IsFile lines text) {index : ℤ}
    (h : ∀ line ∈ lines, line.index ≠ index) : load (some text) index = none := by
  have hnone : lines.filter (·.index = index) = [] := by
    simpa [List.filter_eq_nil_iff] using h
  rw [load_eq, linesOf, split_file htext, ownLines_text, hnone, List.map_nil, if_pos rfl]

/-- What is loaded is what the lines write. -/
theorem load_eq_of_renders (h : Renders config lines) (htext : IsFile lines text) :
    load (some text) = config := by
  funext index
  cases hconfig : config index with
  | some opt =>
    obtain ⟨line, hmem, rfl, rfl⟩ := (h.config index opt).mp hconfig
    exact load_of_mem htext h.once hmem
  | none =>
    apply load_of_forall_ne htext
    intro line hmem hindex
    have hsome := (h.config index line.opt).mpr ⟨line, hmem, hindex, rfl⟩
    rw [hconfig] at hsome
    cases hsome

end File

/-! ## Every configuration can be written -/

section Existence

theorem exists_isCaids {caids : Finset ℤ} (h : ∀ caid ∈ caids, 1 ≤ caid ∧ caid ≤ 0xffff) :
    ∃ text, IsCaids caids text := by
  have hnumerals : ∀ numbers : List ℤ, (∀ number ∈ numbers, 1 ≤ number) →
      ∃ numerals : List (List UInt8), (∀ numeral ∈ numerals, IsNumeralIn 16 numeral) ∧
        numerals.map (fun numeral ↦ (ofDigits 16 numeral : ℤ)) = numbers := by
    intro numbers hnumbers
    induction numbers with
    | nil => exact ⟨[], by simp, rfl⟩
    | cons number numbers ih =>
      obtain ⟨numerals, hall, hvalues⟩ := ih fun other hother ↦
        hnumbers other (List.mem_cons_of_mem number hother)
      obtain ⟨numeral, hnumeral, hvalue⟩ :=
        CString.exists_numeral (show 2 ≤ 16 by decide) (show 16 ≤ 36 by decide) number.toNat
      have hpositive := hnumbers number List.mem_cons_self
      refine ⟨numeral :: numerals, by simpa using ⟨hnumeral, hall⟩, ?_⟩
      rw [List.map_cons, hvalues, hvalue, Int.toNat_of_nonneg (by omega)]
  obtain ⟨numerals, hall, hvalues⟩ := hnumerals caids.toList fun caid hcaid ↦
    (h caid (Finset.mem_toList.mp hcaid)).1
  exact ⟨_, numerals, hall, by rw [hvalues, Finset.toList_toFinset], rfl⟩

/-- Options can be written with all their attributes. -/
theorem exists_writes (hopt : opt.Writable) : ∃ attrs, Writes opt attrs := by
  obtain ⟨type, htype⟩ : ∃ type, tunerTypeTable type = some opt.feType := by
    rcases hopt.feType with hsat | hcable | hterrestrial
    · exact ⟨ascii "DVB-S", by rw [hsat]; decide⟩
    · exact ⟨ascii "DVB-C", by rw [hcable]; decide⟩
    · exact ⟨ascii "DVB-T", by rw [hterrestrial]; decide⟩
  obtain ⟨number, hnumber⟩ := CString.exists_isInteger opt.feNumber
  obtain ⟨caids, hcaids⟩ := exists_isCaids hopt.caCaids
  refine ⟨attrNames.zip [opt.vtunerType, opt.ipaddr, opt.port, type, number, flagText opt.tcpdata,
    flagText opt.forcePlts, flagText opt.caPids, flagText opt.caEmm, caids], ?_⟩
  exact
    { names := fun attr hattr ↦ (List.of_mem_zip hattr).1
      vtunerType := Or.inl ⟨_, rfl, rfl⟩
      ipaddr := Or.inl ⟨_, rfl, rfl⟩
      port := Or.inl ⟨_, rfl, rfl⟩
      feType := Or.inl ⟨type, htype, rfl⟩
      feNumber := Or.inl ⟨number, hnumber, rfl⟩
      tcpdata := Or.inl ⟨_, rfl, rfl⟩
      forcePlts := Or.inl ⟨_, rfl, rfl⟩
      caPids := Or.inl ⟨_, rfl, rfl⟩
      caEmm := Or.inl ⟨_, rfl, rfl⟩
      caCaids := Or.inl ⟨caids, hcaids, rfl⟩ }

theorem exists_configLine {index : ℤ} (hindex : 0 ≤ index ∧ index < 2 ^ 31)
    (hopt : opt.Writable) : ∃ line : ConfigLine, line.index = index ∧ line.opt = opt := by
  obtain ⟨head, hhead, hvalue⟩ :=
    CString.exists_numeral (show 2 ≤ 10 by decide) (show 10 ≤ 36 by decide) index.toNat
  obtain ⟨attrs, hattrs⟩ := exists_writes hopt
  have hdecimal : decimal head = index.toNat := hvalue
  refine ⟨⟨head, opt, attrs, ⟨hhead, by omega⟩, hopt, hattrs⟩, ?_, rfl⟩
  rw [ConfigLine.index, hdecimal, Int.toNat_of_nonneg hindex.1]

/-- A line for each index of a list. -/
theorem exists_lines {config : ℤ → Option VtunerOpt} (h : IsConfig config) (indices : List ℤ)
    (hindices : ∀ index ∈ indices, config index ≠ none) : ∃ lines : List ConfigLine,
      lines.map ConfigLine.index = indices ∧
        ∀ line ∈ lines, config line.index = some line.opt := by
  induction indices with
  | nil => exact ⟨[], rfl, by simp⟩
  | cons index indices ih =>
    obtain ⟨lines, hmap, hlines⟩ := ih fun other hother ↦
      hindices other (List.mem_cons_of_mem index hother)
    have hsome := hindices index List.mem_cons_self
    obtain ⟨opt, hopt⟩ := Option.ne_none_iff_exists'.mp hsome
    obtain ⟨line, rfl, rfl⟩ := exists_configLine (h.index index hsome) (h.writable index opt hopt)
    exact ⟨line :: lines, by rw [List.map_cons, hmap], by simpa using ⟨hopt, hlines⟩⟩

theorem exists_renders {config : ℤ → Option VtunerOpt} (h : IsConfig config) :
    ∃ lines, Renders config lines := by
  obtain ⟨lines, hmap, hlines⟩ := exists_lines h h.finite.toFinset.toList (by simp)
  refine ⟨lines, ⟨by rw [hmap]; exact Finset.nodup_toList _, fun index opt ↦ ⟨fun hopt ↦ ?_, ?_⟩⟩⟩
  · have hmem : index ∈ lines.map ConfigLine.index := by
      rw [hmap]
      simp [hopt]
    obtain ⟨line, hline, rfl⟩ := List.mem_map.mp hmem
    exact ⟨line, hline, rfl, Option.some.inj ((hlines line hline).symm.trans hopt)⟩
  · rintro ⟨line, hline, rfl, rfl⟩
    exact hlines line hline

end Existence

/-- Every configuration can be written, and `load` reads it however it is written; and the entry of
an index depends on the lines of that index alone, in any file. -/
theorem load_render :
    (∀ config, IsConfig config → (∃ lines, Renders config lines) ∧
      ∀ lines text, Renders config lines → IsFile lines text → load (some text) = config) ∧
    ∀ index text text', linesOf index text = linesOf index text' →
      load (some text) index = load (some text') index := by
  constructor
  · intro config h
    exact ⟨exists_renders h, fun lines text hlines htext ↦ load_eq_of_renders hlines htext⟩
  · intro index text text' hlines
    rw [load_eq, load_eq, attrsOf, attrsOf, hlines]

/-- Options of a tuner with two CA systems. -/
def sampleOpt : VtunerOpt where
  vtunerType := ascii "satip_client"
  ipaddr := ascii "192.168.1.10"
  feType := 0
  feNumber := 1
  port := ascii "554"
  caPids := true
  caCaids := {0x4afc, 0x0500}

theorem writable_sampleOpt : sampleOpt.Writable where
  vtunerType := by unfold Plain; decide
  ipaddr := by unfold Plain; decide
  port := by unfold Plain; decide
  feType := by decide
  feNumber := by decide
  caCaids := by decide

def sampleAttrs : List (List UInt8 × List UInt8) :=
  [(ascii "vtuner_type", ascii "satip_client"), (ascii "ipaddr", ascii "192.168.1.10"),
    (ascii "tuner_type", ascii "DVB-S"), (ascii "ca_pids", ascii "1"),
    (ascii "ca_caids", ascii "4AFC;0500"), (ascii "port", ascii "554"), (ascii "fe", ascii "1")]

theorem writes_sampleAttrs : Writes sampleOpt sampleAttrs where
  names := by decide
  vtunerType := Or.inl ⟨_, rfl, rfl⟩
  ipaddr := Or.inl ⟨_, rfl, rfl⟩
  port := Or.inl ⟨_, rfl, rfl⟩
  feType := Or.inl ⟨_, rfl, rfl⟩
  feNumber := Or.inl ⟨_, .nonneg (by decide), rfl⟩
  tcpdata := Or.inr ⟨rfl, rfl⟩
  forcePlts := Or.inr ⟨rfl, rfl⟩
  caPids := Or.inl ⟨_, rfl, rfl⟩
  caEmm := Or.inr ⟨rfl, rfl⟩
  caCaids := by
    refine Or.inl ⟨_, ⟨[ascii "4AFC", ascii "0500"], ?_, ?_, rfl⟩, rfl⟩
    · decide
    · decide

/-- A line for these options. -/
def sampleLine : ConfigLine where
  head := ascii "3"
  opt := sampleOpt
  attrs := sampleAttrs
  head_numeral := by decide
  opt_writable := writable_sampleOpt
  writes := writes_sampleAttrs

/-- The configuration with this line alone. -/
def sampleConfig (index : ℤ) : Option VtunerOpt := if index = 3 then some sampleOpt else none

theorem load_render_sampleConfig : load (some (ascii
    ("3=vtuner_type:satip_client,ipaddr:192.168.1.10,tuner_type:DVB-S," ++
      "ca_pids:1,ca_caids:4AFC;0500,port:554,fe:1"))) = sampleConfig := by
  have hone : ∀ index, sampleConfig index ≠ none → index = 3 := by
    intro index hsome
    by_contra hother
    exact hsome (if_neg hother)
  have hconfig : IsConfig sampleConfig := by
    refine ⟨(Set.finite_singleton 3).subset hone, fun index hsome ↦ ?_, fun index opt hopt ↦ ?_⟩
    · rw [hone index hsome]
      decide
    · unfold sampleConfig at hopt
      split_ifs at hopt
      rw [← Option.some.inj hopt]
      exact writable_sampleOpt
  have hrenders : Renders sampleConfig [sampleLine] := by
    refine ⟨by simp, fun index opt ↦ ?_⟩
    have hindex : sampleLine.index = 3 := by decide
    have hopt : sampleLine.opt = sampleOpt := rfl
    unfold sampleConfig
    split_ifs with heq
    · simp [hindex, hopt, heq]
    · simp [hindex, Ne.symm heq]
  exact (load_render.1 sampleConfig hconfig).2 [sampleLine] _ hrenders (Or.inr (by decide))

end SatipClient.Options
