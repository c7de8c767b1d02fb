import Mathlib.Data.Finset.Insert
import Mathlib.Logic.Function.Basic
import SatipClient.Foundation.Attributes
import SatipClient.Foundation.Numerals
import SatipClient.Foundation.Split

/-!
# The configuration file

`optParser::load` reads `/etc/vtuner.conf`: a line gives the attributes of the tuner whose index it
starts with.  What a line does depends on the table of tuner types, which `operator[]` extends with
the names it does not know; but it gives them the number that they would have been given anyway, so
the options of a tuner are a function of the attributes in its lines (`load_eq`).
-/

namespace SatipClient.Options

open CString (ascii ofBytes atoi strtolIn)
open Split (split)
open Attributes (values)

/-- `vtunerOpt` -/
@[ext]
structure VtunerOpt where
  vtunerType : List UInt8 := []
  ipaddr : List UInt8 := []
  tcpdata : Bool := false
  feType : ℤ := -1
  feNumber : ℤ := 0
  forcePlts : Bool := false
  port : List UInt8 := []
  caPids : Bool := false
  caEmm : Bool := true
  caCaids : Finset ℤ := ∅
  deriving DecidableEq

namespace VtunerOpt

/-- `isAvailable` -/
def isAvailable (opt : VtunerOpt) : Bool :=
  if opt.vtunerType ≠ ascii "satip_client" ∨ opt.feType = -1 ∨ opt.ipaddr = [] then false else true

end VtunerOpt

/-- `std::map<std::string, int>` -/
abbrev TypeTable := List UInt8 → Option ℤ

/-- The table as `load` fills it. -/
def tunerTypeTable : TypeTable := fun name ↦
  if name = ascii "DVB-S" then some 0
  else if name = ascii "DVB-C" then some 1
  else if name = ascii "DVB-T" then some 2
  else none

/-- `table[name]`: a name that is not in the table is entered, with 0. -/
def lookup (table : TypeTable) (name : List UInt8) : ℤ × TypeTable :=
  match table name with
  | some number => (number, table)
  | none => (0, Function.update table name (some 0))

/-- A round of the loop over the parts of `ca_caids`. -/
def insertCaid (caids : Finset ℤ) (text : List UInt8) : Finset ℤ :=
  if text = [] then caids
  else
    let caid := strtolIn 16 (ofBytes text)
    if 0 < caid ∧ caid ≤ 0xffff then insert caid caids else caids

/-- The chain of comparisons in `load`, for the first two parts of an attribute. -/
def setAttr (name value : List UInt8) (opt : VtunerOpt) (table : TypeTable) :
    VtunerOpt × TypeTable :=
  if name = ascii "vtuner_type" then ({ opt with vtunerType := value }, table)
  else if name = ascii "ipaddr" then ({ opt with ipaddr := value }, table)
  else if name = ascii "tcpdata" ∧ value = ascii "1" then ({ opt with tcpdata := true }, table)
  else if name = ascii "tuner_type" then
    ({ opt with feType := (lookup table value).1 }, (lookup table value).2)
  else if name = ascii "force_plts" ∧ value = ascii "1" then ({ opt with forcePlts := true }, table)
  else if name = ascii "fe" then ({ opt with feNumber := atoi (ofBytes value) }, table)
  else if name = ascii "port" then ({ opt with port := value }, table)
  else if name = ascii "ca_pids" then ({ opt with caPids := value = ascii "1" }, table)
  else if name = ascii "ca_emm" then ({ opt with caEmm := value = ascii "1" }, table)
  else if name = ascii "ca_caids" then
    ({ opt with caCaids := (split 59 value).foldl insertCaid opt.caCaids }, table)
  else (opt, table)

/-- What `load` works on: `m_settings`, and the table of tuner types. -/
structure Loading where
  settings : ℤ → Option VtunerOpt := fun _ ↦ none
  table : TypeTable := tunerTypeTable

namespace Loading

/-- `m_settings[index]` -/
def entry (s : Loading) (index : ℤ) : VtunerOpt := (s.settings index).getD {}

/-- The line has an entry of its own. -/
def enter (index : ℤ) (s : Loading) : Loading :=
  if s.settings index = none then
    { s with settings := Function.update s.settings index (some {}) }
  else s

/-- A round of the loop over the attributes of a line. -/
def loadAttr (index : ℤ) (s : Loading) (item : List UInt8) : Loading :=
  match split 58 item with
  | name :: value :: _ =>
    { settings :=
        Function.update s.settings index (some (setAttr name value (s.entry index) s.table).1)
      table := (setAttr name value (s.entry index) s.table).2 }
  | _ => s

/-- A round of the loop over the lines. -/
def loadLine (s : Loading) (line : List UInt8) : Loading :=
  match split 61 line with
  | [head, body] =>
    (split 44 body).foldl (loadAttr (atoi (ofBytes head))) (s.enter (atoi (ofBytes head)))
  | _ => s

end Loading

/-- `load`: `file` is the text of the file, if it can be opened. -/
def load (file : Option (List UInt8)) : ℤ → Option VtunerOpt :=
  match file with
  | none => ({} : Loading).settings
  | some text => ((split 10 text).foldl Loading.loadLine {}).settings

/-! ## What the lines say -/

/-- The attribute that an item of a line names, and its value. -/
def parseItem (item : List UInt8) : Option (List UInt8 × List UInt8) :=
  match split 58 item with
  | name :: value :: _ => some (name, value)
  | _ => none

/-- The index of a line, and the attributes. -/
def parseLine (line : List UInt8) : Option (ℤ × List (List UInt8 × List UInt8)) :=
  match split 61 line with
  | [head, body] => some (atoi (ofBytes head), (split 44 body).filterMap parseItem)
  | _ => none

/-- Those of the lines that have this index. -/
def ownLines (index : ℤ) (lines : List (List UInt8)) : List (List UInt8) :=
  lines.filter fun line ↦ (parseLine line).map Prod.fst = some index

/-- The attributes in some lines. -/
def attrsIn (lines : List (List UInt8)) : List (List UInt8 × List UInt8) :=
  lines.flatMap fun line ↦ ((parseLine line).map Prod.snd).getD []

/-- The lines of an index. -/
def linesOf (index : ℤ) (text : List UInt8) : List (List UInt8) := ownLines index (split 10 text)

/-- The attributes of an index. -/
def attrsOf (index : ℤ) (text : List UInt8) : List (List UInt8 × List UInt8) :=
  attrsIn (linesOf index text)

/-- The number of a tuner type; one that is not known passes for `DVB-S`. -/
def typeNumber (name : List UInt8) : ℤ := (tunerTypeTable name).getD 0

/-- What an attribute makes of the options. -/
def applyAttr (opt : VtunerOpt) (attr : List UInt8 × List UInt8) : VtunerOpt :=
  (setAttr attr.1 attr.2 opt tunerTypeTable).1

example : (load (some (ascii "1=tuner_type:DVB-C\n1=fe:-2,ca_emm:0\nport:7"))) 1 =
    some { feType := 1, feNumber := -2, caEmm := false } := by decide

/-! ## The table of tuner types -/

/-- The table gives each name the number it had at first, and 0 to the others. -/
def Intact (table : TypeTable) : Prop := ∀ name, (table name).getD 0 = typeNumber name

theorem intact_tunerTypeTable : Intact tunerTypeTable := fun _ ↦ rfl

section Table

variable {table : TypeTable} {name value : List UInt8}

theorem lookup_fst (table : TypeTable) (name : List UInt8) :
    (lookup table name).1 = (table name).getD 0 := by
  unfold lookup
  cases table name <;> rfl

theorem intact_lookup (h : Intact table) (name : List UInt8) : Intact (lookup table name).2 := by
  intro other
  unfold lookup
  cases hname : table name with
  | some number => exact h other
  | none =>
    by_cases hother : other = name
    · subst hother
      rw [← h other, hname]
      simp
    · rw [← h other]
      simp [hother]

/-- What an attribute does to the options does not depend on the names that were looked up. -/
theorem setAttr_fst (h : Intact table) (name value : List UInt8) (opt : VtunerOpt) :
    (setAttr name value opt table).1 = applyAttr opt (name, value) := by
  have hnumber : (lookup table value).1 = (lookup tunerTypeTable value).1 := by
    rw [lookup_fst, lookup_fst, h value, typeNumber]
  unfold applyAttr setAttr
  simp only [apply_ite Prod.fst, hnumber]

theorem intact_setAttr (h : Intact table) (name value : List UInt8) (opt : VtunerOpt) :
    Intact (setAttr name value opt table).2 := by
  have hlookup : Intact (lookup table value).2 := intact_lookup h value
  simp only [setAttr, apply_ite Prod.snd, apply_ite Intact, h, hlookup, ite_self]

end Table

/-! ## What the loops do -/

section Loops

variable {s : Loading} {index other : ℤ}

/-- The entry of an index. -/
theorem settings_loadAttr (h : Intact s.table) (item : List UInt8) :
    (s.loadAttr index item).settings = match parseItem item with
      | none => s.settings
      | some attr => Function.update s.settings index (some (applyAttr (s.entry index) attr)) := by
  unfold Loading.loadAttr parseItem
  rcases split 58 item with _ | ⟨name, _ | ⟨value, rest⟩⟩
  · rfl
  · rfl
  · simp only [setAttr_fst h]

theorem intact_loadAttr (h : Intact s.table) (item : List UInt8) :
    Intact (s.loadAttr index item).table := by
  unfold Loading.loadAttr
  rcases split 58 item with _ | ⟨name, _ | ⟨value, rest⟩⟩
  · exact h
  · exact h
  · exact intact_setAttr h name value (s.entry index)

/-- The attributes of a line, one by one. -/
theorem foldl_loadAttr (h : Intact s.table) (hentry : s.settings index = some (s.entry index))
    (items : List (List UInt8)) :
    (items.foldl (Loading.loadAttr index) s).settings = Function.update s.settings index
        (some ((items.filterMap parseItem).foldl applyAttr (s.entry index))) ∧
      Intact (items.foldl (Loading.loadAttr index) s).table := by
  induction items generalizing s with
  | nil =>
    refine ⟨?_, h⟩
    rw [List.filterMap_nil, List.foldl_nil, List.foldl_nil, ← hentry, Function.update_eq_self]
  | cons item items ih =>
    have hintact : Intact (s.loadAttr index item).table := intact_loadAttr h item
    rw [List.foldl_cons, List.filterMap_cons]
    cases hparsed : parseItem item with
    | none =>
      have hstep : (s.loadAttr index item).settings = s.settings := by
        rw [settings_loadAttr h, hparsed]
      have hsame : (s.loadAttr index item).entry index = s.entry index :=
        congrArg (fun settings ↦ (settings index).getD {}) hstep
      have hrest := ih hintact (by rw [hstep, hsame, hentry])
      rw [hstep, hsame] at hrest
      exact hrest
    | some attr =>
      have hstep : (s.loadAttr index item).settings =
          Function.update s.settings index (some (applyAttr (s.entry index) attr)) := by
        rw [settings_loadAttr h, hparsed]
      have hset : (s.loadAttr index item).settings index =
          some (applyAttr (s.entry index) attr) := by
        rw [hstep, Function.update_self]
      have hchanged : (s.loadAttr index item).entry index = applyAttr (s.entry index) attr :=
        congrArg (fun found ↦ found.getD {}) hset
      have hrest := ih hintact (by rw [hset, hchanged])
      rw [hstep, hchanged, Function.update_idem] at hrest
      exact hrest

theorem entry_enter (index : ℤ) (s : Loading) : (s.enter index).entry index = s.entry index := by
  unfold Loading.enter Loading.entry
  split
  case isTrue hnone => simp [hnone]
  case isFalse => rfl

theorem settings_enter (index : ℤ) (s : Loading) :
    (s.enter index).settings = Function.update s.settings index (some (s.entry index)) := by
  unfold Loading.enter Loading.entry
  split
  case isTrue hnone => simp [hnone]
  case isFalse hsome =>
    obtain ⟨opt, hopt⟩ := Option.ne_none_iff_exists'.mp hsome
    rw [hopt, Option.getD_some, ← hopt, Function.update_eq_self]

theorem intact_enter (h : Intact s.table) (index : ℤ) : Intact (s.enter index).table := by
  unfold Loading.enter
  split <;> exact h

/-- What a line does. -/
theorem loadLine_spec (h : Intact s.table) (line : List UInt8) :
    (s.loadLine line).settings = (match parseLine line with
      | none => s.settings
      | some (index, attrs) =>
        Function.update s.settings index (some (attrs.foldl applyAttr (s.entry index)))) ∧
      Intact (s.loadLine line).table := by
  unfold Loading.loadLine parseLine
  split
  case h_1 head body _ =>
    set index := atoi (ofBytes head)
    have hentry : (s.enter index).settings index = some ((s.enter index).entry index) := by
      rw [settings_enter, Function.update_self, entry_enter]
    have hattrs := foldl_loadAttr (intact_enter h index) hentry (split 44 body)
    rw [settings_enter, Function.update_idem, entry_enter] at hattrs
    exact hattrs
  case h_2 => exact ⟨rfl, h⟩

section Lines

variable {line : List UInt8} {attrs : List (List UInt8 × List UInt8)}

theorem ownLines_cons_of_eq (h : (parseLine line).map Prod.fst = some index)
    (lines : List (List UInt8)) : ownLines index (line :: lines) = line :: ownLines index lines :=
  List.filter_cons_of_pos (decide_eq_true h)

theorem ownLines_cons_of_ne (h : (parseLine line).map Prod.fst ≠ some index)
    (lines : List (List UInt8)) : ownLines index (line :: lines) = ownLines index lines := by
  apply List.filter_cons_of_neg
  simpa using h

theorem attrsIn_cons (h : parseLine line = some (index, attrs)) (lines : List (List UInt8)) :
    attrsIn (line :: lines) = attrs ++ attrsIn lines := by
  rw [attrsIn, List.flatMap_cons, h, attrsIn]
  rfl

/-- A line of the index continues its entry. -/
theorem settings_loadLine_of_eq (h : Intact s.table)
    (hline : parseLine line = some (index, attrs)) :
    (s.loadLine line).settings index = some (attrs.foldl applyAttr (s.entry index)) := by
  rw [(loadLine_spec h line).1, hline]
  exact Function.update_self index _ s.settings

/-- The other lines leave it. -/
theorem settings_loadLine_of_ne (h : Intact s.table)
    (hline : (parseLine line).map Prod.fst ≠ some index) :
    (s.loadLine line).settings index = s.settings index := by
  rw [(loadLine_spec h line).1]
  cases hparsed : parseLine line with
  | none => rfl
  | some parsed =>
    have hne : index ≠ parsed.1 := by
      intro heq
      rw [hparsed, heq] at hline
      exact hline rfl
    exact Function.update_of_ne hne _ _

/-- Of the lines, those of an index make its entry. -/
theorem settings_foldl_loadLine (h : Intact s.table) (lines : List (List UInt8)) (index : ℤ) :
    (lines.foldl Loading.loadLine s).settings index =
      if ownLines index lines = [] then s.settings index
      else some ((attrsIn (ownLines index lines)).foldl applyAttr (s.entry index)) := by
  induction lines generalizing s with
  | nil => rfl
  | cons line lines ih =>
    have hrest := ih (loadLine_spec h line).2
    rw [List.foldl_cons, hrest]
    by_cases hown : (parseLine line).map Prod.fst = some index
    · obtain ⟨parsed, hparsed, rfl⟩ := Option.map_eq_some_iff.mp hown
      have hset : (s.loadLine line).settings parsed.1 =
          some (parsed.2.foldl applyAttr (s.entry parsed.1)) :=
        settings_loadLine_of_eq h hparsed
      have hentry : (s.loadLine line).entry parsed.1 =
          parsed.2.foldl applyAttr (s.entry parsed.1) :=
        congrArg (fun found ↦ found.getD {}) hset
      rw [ownLines_cons_of_eq hown, if_neg (List.cons_ne_nil _ _), attrsIn_cons hparsed,
        List.foldl_append, hset, hentry]
      split
      case isTrue hnil =>
        rw [hnil]
        rfl
      case isFalse => rfl
    · have hsame := settings_loadLine_of_ne h hown
      have hentry : (s.loadLine line).entry index = s.entry index :=
        congrArg (fun found ↦ found.getD {}) hsame
      rw [ownLines_cons_of_ne hown, hsame, hentry]

end Lines

/-- The options of an index come from the attributes in its lines, one after the other. -/
theorem load_eq (text : List UInt8) (index : ℤ) : load (some text) index =
    if linesOf index text = [] then none
    else some ((attrsOf index text).foldl applyAttr {}) :=
  settings_foldl_loadLine intact_tunerTypeTable (split 10 text) index

end Loops

/-! ## What the attributes change -/

section Parts

variable {Part : Type*} {name : List UInt8} {part : VtunerOpt → Part}
  {change : Part → List UInt8 → Part}

/-- This part of the options is changed by the attributes of this name alone. -/
def Governs (name : List UInt8) (part : VtunerOpt → Part) (change : Part → List UInt8 → Part) :
    Prop :=
  ∀ opt attr, part (applyAttr opt attr) =
    if attr.1 = name then change (part opt) attr.2 else part opt

theorem Governs.foldl (h : Governs name part change) (attrs : List (List UInt8 × List UInt8))
    (opt : VtunerOpt) :
    part (attrs.foldl applyAttr opt) = (values name attrs).foldl change (part opt) :=
  Attributes.foldl_part h attrs opt

/-- It is enough to know what the name does, and that the others do nothing. -/
theorem governs_of
    (hsame : ∀ opt value, part (applyAttr opt (name, value)) = change (part opt) value)
    (hother : ∀ opt other value, other ≠ name → part (applyAttr opt (other, value)) = part opt) :
    Governs name part change := by
  intro opt attr
  split
  case isTrue hname => rw [← hsame, ← hname]
  case isFalse hname => exact hother opt attr.1 attr.2 hname

theorem governs_vtunerType :
    Governs (ascii "vtuner_type") VtunerOpt.vtunerType fun _ value ↦ value := by
  refine governs_of (fun opt value ↦ rfl) fun opt other value h ↦ ?_
  simp only [applyAttr, setAttr, apply_ite Prod.fst, apply_ite VtunerOpt.vtunerType, h, if_false,
    ite_self]

theorem governs_ipaddr : Governs (ascii "ipaddr") VtunerOpt.ipaddr fun _ value ↦ value := by
  refine governs_of (fun opt value ↦ rfl) fun opt other value h ↦ ?_
  simp only [applyAttr, setAttr, apply_ite Prod.fst, apply_ite VtunerOpt.ipaddr, h, if_false,
    ite_self]

/-- This attribute only ever raises the flag. -/
theorem governs_tcpdata : Governs (ascii "tcpdata") VtunerOpt.tcpdata fun flag value ↦
    if value = ascii "1" then true else flag := by
  refine governs_of (fun opt value ↦ ?_) fun opt other value h ↦ ?_
  · by_cases hvalue : value = ascii "1"
    · subst hvalue
      rfl
    · simp only [applyAttr, setAttr, apply_ite Prod.fst, apply_ite VtunerOpt.tcpdata, hvalue,
        and_false, if_false, ite_self]
  · simp only [applyAttr, setAttr, apply_ite Prod.fst, apply_ite VtunerOpt.tcpdata, h, false_and,
      if_false, ite_self]

theorem governs_feType :
    Governs (ascii "tuner_type") VtunerOpt.feType fun _ value ↦ typeNumber value := by
  refine governs_of (fun opt value ↦ ?_) fun opt other value h ↦ ?_
  · have hnumber : (applyAttr opt (ascii "tuner_type", value)).feType =
        (lookup tunerTypeTable value).1 := rfl
    rw [hnumber, lookup_fst, typeNumber]
  · simp only [applyAttr, setAttr, apply_ite Prod.fst, apply_ite VtunerOpt.feType, h, if_false,
      ite_self]

theorem governs_forcePlts : Governs (ascii "force_plts") VtunerOpt.forcePlts fun flag value ↦
    if value = ascii "1" then true else flag := by
  refine governs_of (fun opt value ↦ ?_) fun opt other value h ↦ ?_
  · by_cases hvalue : value = ascii "1"
    · subst hvalue
      rfl
    · simp only [applyAttr, setAttr, apply_ite Prod.fst, apply_ite VtunerOpt.forcePlts, hvalue,
        and_false, if_false, ite_self]
  · simp only [applyAttr, setAttr, apply_ite Prod.fst, apply_ite VtunerOpt.forcePlts, h, false_and,
      if_false, ite_self]

theorem governs_feNumber :
    Governs (ascii "fe") VtunerOpt.feNumber fun _ value ↦ atoi (ofBytes value) := by
  refine governs_of (fun opt value ↦ rfl) fun opt other value h ↦ ?_
  simp only [applyAttr, setAttr, apply_ite Prod.fst, apply_ite VtunerOpt.feNumber, h, if_false,
    ite_self]

theorem governs_port : Governs (ascii "port") VtunerOpt.port fun _ value ↦ value := by
  refine governs_of (fun opt value ↦ rfl) fun opt other value h ↦ ?_
  simp only [applyAttr, setAttr, apply_ite Prod.fst, apply_ite VtunerOpt.port, h, if_false,
    ite_self]

/-- This one sets the flag to what it says. -/
theorem governs_caPids :
    Governs (ascii "ca_pids") VtunerOpt.caPids fun _ value ↦ decide (value = ascii "1") := by
  refine governs_of (fun opt value ↦ rfl) fun opt other value h ↦ ?_
  simp only [applyAttr, setAttr, apply_ite Prod.fst, apply_ite VtunerOpt.caPids, h, if_false,
    ite_self]

theorem governs_caEmm :
    Governs (ascii "ca_emm") VtunerOpt.caEmm fun _ value ↦ decide (value = ascii "1") := by
  refine governs_of (fun opt value ↦ rfl) fun opt other value h ↦ ?_
  simp only [applyAttr, setAttr, apply_ite Prod.fst, apply_ite VtunerOpt.caEmm, h, if_false,
    ite_self]

/-- The numbers are added to those of other lines. -/
theorem governs_caCaids : Governs (ascii "ca_caids") VtunerOpt.caCaids fun caids value ↦
    (split 59 value).foldl insertCaid caids := by
  refine governs_of (fun opt value ↦ rfl) fun opt other value h ↦ ?_
  simp only [applyAttr, setAttr, apply_ite Prod.fst, apply_ite VtunerOpt.caCaids, h, if_false,
    ite_self]

end Parts

end SatipClient.Options
