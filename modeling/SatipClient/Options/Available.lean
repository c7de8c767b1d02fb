import SatipClient.Options.State

/-!
# Tuners that are started

A tuner is started when its options are available: `satip_client`, an address and a tuner type.
The constructor leaves -1 for the type, so options without one are not available.  But a type that
the table does not have is entered there as 0, and passes for `DVB-S`; so a tuner that is started
is configured right just when the last type that its lines name is known
(`available_configured_iff`).
-/

namespace SatipClient.Options

open CString (ascii)
open Attributes (values)

/-- The tuner types, with their numbers. -/
def tunerTypes : List (List UInt8 × ℤ) :=
  [(ascii "DVB-S", 0), (ascii "DVB-C", 1), (ascii "DVB-T", 2)]

/-- The last value that the lines of an index give a name. -/
def lastValue (name : String) (index : ℤ) (text : List UInt8) : Option (List UInt8) :=
  (values (ascii name) (attrsOf index text)).getLast?

/-- The lines of an index configure a SAT>IP tuner with an address and a tuner type, which is the
type in the options. -/
structure Configured (index : ℤ) (text : List UInt8) (opt : VtunerOpt) : Prop where
  satipClient : (ascii "vtuner_type", ascii "satip_client") ∈ attrsOf index text
  ipaddr : ∃ ip, (ascii "ipaddr", ip) ∈ attrsOf index text ∧ ip ≠ []
  tunerType : ∃ name, lastValue "tuner_type" index text = some name ∧
    (name, opt.feType) ∈ tunerTypes

/-- The lines of an index name a known tuner type last, or none, or something else is missing. -/
def KnowsType (index : ℤ) (text : List UInt8) : Prop :=
  ∀ name, lastValue "tuner_type" index text = some name →
    (∃ number, (name, number) ∈ tunerTypes) ∨
      lastValue "vtuner_type" index text ≠ some (ascii "satip_client") ∨
      (lastValue "ipaddr" index text).getD [] = []

variable {index : ℤ} {text name : List UInt8} {opt : VtunerOpt}

theorem mem_tunerTypes_iff {number : ℤ} :
    (name, number) ∈ tunerTypes ↔ tunerTypeTable name = some number := by
  have hmem : (name, number) ∈ tunerTypes ↔ name = ascii "DVB-S" ∧ number = 0 ∨
      name = ascii "DVB-C" ∧ number = 1 ∨ name = ascii "DVB-T" ∧ number = 2 := by
    simp [tunerTypes]
  have hnames : ascii "DVB-S" ≠ ascii "DVB-C" ∧ ascii "DVB-S" ≠ ascii "DVB-T" ∧
      ascii "DVB-C" ≠ ascii "DVB-T" := by
    decide
  rw [hmem]
  unfold tunerTypeTable
  grind

/-- No name stands for a missing type. -/
theorem typeNumber_ne (name : List UInt8) : typeNumber name ≠ -1 := by
  unfold typeNumber tunerTypeTable
  split_ifs <;> decide

theorem isAvailable_iff : opt.isAvailable = true ↔
    opt.vtunerType = ascii "satip_client" ∧ opt.feType ≠ -1 ∧ opt.ipaddr ≠ [] := by
  unfold VtunerOpt.isAvailable
  simp

/-! ## The options of an index -/

theorem vtunerType_attrsOf : ((attrsOf index text).foldl applyAttr {}).vtunerType =
    (lastValue "vtuner_type" index text).getD [] := by
  have hlast := Attributes.foldl_last id (values (ascii "vtuner_type") (attrsOf index text)) []
  rw [Option.map_id] at hlast
  exact (governs_vtunerType.foldl _ {}).trans hlast

theorem ipaddr_attrsOf : ((attrsOf index text).foldl applyAttr {}).ipaddr =
    (lastValue "ipaddr" index text).getD [] := by
  have hlast := Attributes.foldl_last id (values (ascii "ipaddr") (attrsOf index text)) []
  rw [Option.map_id] at hlast
  exact (governs_ipaddr.foldl _ {}).trans hlast

theorem feType_attrsOf : ((attrsOf index text).foldl applyAttr {}).feType =
    ((lastValue "tuner_type" index text).map typeNumber).getD (-1) := by
  rw [governs_feType.foldl, Attributes.foldl_last typeNumber, lastValue]

/-- A tuner is started when the last values are those, whatever the type is. -/
theorem isAvailable_attrsOf_iff : ((attrsOf index text).foldl applyAttr {}).isAvailable = true ↔
    lastValue "vtuner_type" index text = some (ascii "satip_client") ∧
      lastValue "tuner_type" index text ≠ none ∧ (lastValue "ipaddr" index text).getD [] ≠ [] := by
  have hclient : (lastValue "vtuner_type" index text).getD [] = ascii "satip_client" ↔
      lastValue "vtuner_type" index text = some (ascii "satip_client") := by
    cases lastValue "vtuner_type" index text with
    | none => decide
    | some value => simp
  have htype : ((lastValue "tuner_type" index text).map typeNumber).getD (-1) ≠ -1 ↔
      lastValue "tuner_type" index text ≠ none := by
    cases lastValue "tuner_type" index text with
    | none => simp
    | some value => simp [typeNumber_ne]
  rw [isAvailable_iff, vtunerType_attrsOf, ipaddr_attrsOf, feType_attrsOf, hclient, htype]

theorem mem_attrsOf_of_lastValue {name : String} {value : List UInt8}
    (h : lastValue name index text = some value) : (ascii name, value) ∈ attrsOf index text :=
  Attributes.mem_values_iff.mp (List.mem_of_getLast? h)

/-- Whatever the file says, a tuner that is started is fully and correctly configured just when the
last tuner type that its lines name, if there is one, is known. -/
theorem available_configured_iff (text : List UInt8) (index : ℤ) :
    (∀ opt, load (some text) index = some opt → opt.isAvailable = true →
      Configured index text opt) ↔ KnowsType index text := by
  set opt : VtunerOpt := (attrsOf index text).foldl applyAttr {} with hopt
  constructor
  · intro hconfigured name hname
    by_contra hbad
    rw [not_or, not_or, not_not] at hbad
    obtain ⟨hunknown, hclient, haddress⟩ := hbad
    have havailable : opt.isAvailable = true :=
      isAvailable_attrsOf_iff.mpr ⟨hclient, by simp [hname], haddress⟩
    have hload : load (some text) index = some opt := by
      rw [load_eq, if_neg]
      intro hnil
      rw [lastValue, attrsOf, hnil] at hname
      cases hname
    obtain ⟨known, hknown, hnumber⟩ := (hconfigured opt hload havailable).tunerType
    rw [hname] at hknown
    obtain rfl := Option.some.inj hknown
    exact hunknown ⟨_, hnumber⟩
  · intro hknows found hload havailable
    rw [load_eq] at hload
    split_ifs at hload
    obtain rfl := Option.some.inj hload
    obtain ⟨hclient, htype, haddress⟩ := isAvailable_attrsOf_iff.mp havailable
    obtain ⟨name, hname⟩ := Option.ne_none_iff_exists'.mp htype
    obtain ⟨ip, hip⟩ : ∃ ip, lastValue "ipaddr" index text = some ip := by
      apply Option.ne_none_iff_exists'.mp
      intro hnone
      rw [hnone] at haddress
      exact haddress rfl
    have hnumber : ∃ number, (name, number) ∈ tunerTypes := by
      rcases hknows name hname with hnumber | hother | hmissing
      · exact hnumber
      · exact absurd hclient hother
      · exact absurd hmissing haddress
    obtain ⟨number, hnumber⟩ := hnumber
    have htypeNumber : typeNumber name = number := by
      rw [typeNumber, mem_tunerTypes_iff.mp hnumber, Option.getD_some]
    refine ⟨mem_attrsOf_of_lastValue hclient, ⟨ip, mem_attrsOf_of_lastValue hip, ?_⟩,
      ⟨name, hname, ?_⟩⟩
    · rw [hip] at haddress
      exact haddress
    · rw [feType_attrsOf, hname, Option.map_some, Option.getD_some, htypeNumber]
      exact hnumber

/-- A line with a type that does not exist. -/
def unknownType : List UInt8 := ascii "0=vtuner_type:satip_client,ipaddr:1,tuner_type:DVB-X"

/-- Its tuner is started, as one for `DVB-S`. -/
theorem not_available_configured :
    ∃ opt, load (some unknownType) 0 = some opt ∧ opt.isAvailable = true ∧ opt.feType = 0 ∧
      ¬Configured 0 unknownType opt := by
  refine ⟨_, rfl, by decide, by decide, ?_⟩
  rintro ⟨-, -, name, hname, hmem⟩
  have hlast : lastValue "tuner_type" 0 unknownType = some (ascii "DVB-X") := by decide
  obtain rfl := Option.some.inj (hlast.symm.trans hname)
  rw [mem_tunerTypes_iff] at hmem
  cases hmem

end SatipClient.Options
