import SatipClient.PSI.Safety

/-!
# What a section can change

One inversion lemma for each section parser (`parsePAT_cases`, `parseCAT_cases`,
`parsePMT_cases`) says everything the parser can do.  From them follows what a section does to
the inputs of `recompute` (`handleSection_effect`): it raises `m_dirty`, or leaves every input
as it was, or replaces the elementary stream list of one service whose ECM pids it confirms.
The last case is the one in which `recompute` has a new input and nothing asks for it.
-/

namespace SatipClient.PSI

open Checked

namespace Tables

/-- What is known about the service behind a PMT pid, empty if nothing is. -/
def infoOf (t : Tables) (pid : ℕ) : PmtInfo := (t.pmt pid).getD {}

/-- The sections a PAT or CAT section joins: those of its own version. -/
def sectionsFor (known : Option ℕ) (sections : ℕ → Option (Finset ℕ)) (version : ℕ) :
    ℕ → Option (Finset ℕ) :=
  if known = some version then sections else fun _ ↦ none

/-- The section map once a section of this version and number has been entered. -/
def enter (known : Option ℕ) (sections : ℕ → Option (Finset ℕ)) (version number : ℕ)
    (pids : Finset ℕ) : ℕ → Option (Finset ℕ) :=
  Function.update (sectionsFor known sections version) number (some pids)

/-- An entry of such a map is the new one, or one from before of the same version. -/
theorem enter_cases {known : Option ℕ} {stored : ℕ → Option (Finset ℕ)} {version number place : ℕ}
    {pids found : Finset ℕ} (h : enter known stored version number pids place = some found) :
    place = number ∧ found = pids ∨ known = some version ∧ stored place = some found := by
  rcases update_eq_some h with hnew | ⟨-, hold⟩
  · exact Or.inl hnew
  · unfold sectionsFor at hold
    split at hold
    case isTrue hknown => exact Or.inr ⟨hknown, hold⟩
    case isFalse => cases hold

/-- The tables once a PAT section has been entered. -/
def withPatSection (t : Tables) (version number : ℕ) (pids : Finset ℕ) : Tables :=
  let sections := enter t.patVersion t.patSections version number pids
  let all := sectionUnion sections
  { t with
    patVersion := some version
    patSections := sections
    patPmtPids := all
    pmt := if all = t.patPmtPids then t.pmt else eraseUnlisted t.pmt all
    dirty := t.dirty || decide (all ≠ t.patPmtPids) }

/-- The tables once a CAT section has been entered. -/
def withCatSection (t : Tables) (version number : ℕ) (pids : Finset ℕ) : Tables :=
  let sections := enter t.catVersion t.catSections version number pids
  let all := sectionUnion sections
  { t with
    catVersion := some version
    catSections := sections
    emmPids := all
    dirty := t.dirty || decide (all ≠ t.emmPids) }

/-- The tables once `m_pmt[pid]` exists. -/
def withPmtEntry (t : Tables) (pid : ℕ) : Tables :=
  { t with pmt := Function.update t.pmt pid (some (t.infoOf pid)) }

/-- The tables once a PMT section has been entered. -/
def withPmtSection (t : Tables) (pid version : ℕ) (ecmPids esPids : Finset ℕ) : Tables :=
  { t with
    pmt := Function.update t.pmt pid
      (some { version := some version, ecmPids := ecmPids, esPids := esPids })
    dirty := t.dirty || decide ((t.infoOf pid).ecmPids ≠ ecmPids) }

/-- The version of a section, from the byte that also holds `current_next_indicator`. -/
def versionOf (flags : ℕ) : ℕ := (flags >>> 1) &&& 0x1f

/-- The version, the ECM pids and the elementary stream pids that `parsePMT` stores for this
section, when its version is not the one stored and its lengths are in order. -/
def pmtStored (t : Tables) (pid : ℕ) (sec : List UInt8) :
    Option (ℕ × Finset ℕ × Finset ℕ) := do
  let flags ← byteAt sec 5
  let lengthHigh ← byteAt sec 10
  let lengthLow ← byteAt sec 11
  let programInfoLength := lengthOfBytes lengthHigh lengthLow
  if (t.infoOf pid).version ≠ some (versionOf flags) ∧
      12 + programInfoLength + 4 ≤ sec.length then
    (pmtContents t.caidFilter sec programInfoLength).map (versionOf flags, ·)
  else none

/-- A complete section of this table: it has the section syntax, its crc is right, and it is
applicable already. -/
structure IsTable (sec : List UInt8) (tableId : ℕ) : Prop where
  tableId_eq : byteAt sec 0 = some tableId
  syntax_bit : ∃ value ∈ byteAt sec 1, value &&& 0x80 ≠ 0
  crc : crc32Calc sec = 0
  current_next : ∃ flags ∈ byteAt sec 5, flags &&& 0x01 ≠ 0

instance (sec : List UInt8) (tableId : ℕ) : Decidable (IsTable sec tableId) :=
  decidable_of_iff (byteAt sec 0 = some tableId ∧ (∃ value ∈ byteAt sec 1, value &&& 0x80 ≠ 0) ∧
      crc32Calc sec = 0 ∧ ∃ flags ∈ byteAt sec 5, flags &&& 0x01 ≠ 0)
    ⟨fun h ↦ ⟨h.1, h.2.1, h.2.2.1, h.2.2.2⟩, fun h ↦ ⟨h.1, h.2, h.3, h.4⟩⟩

/-- The section has the syntax of one but a wrong crc. -/
def countCrcError (t : Tables) : Tables := { t with crcErrors := t.crcErrors + 1 }

/-- The section has been counted. -/
def countSection (t : Tables) : Tables := { t with sections := t.sections + 1 }

variable {t t' : Tables} {pid : ℕ} {sec : List UInt8}

/-! ## What each parser does -/

theorem parsePAT_cases (h : parsePAT sec t = some t') :
    ∃ flags number pids, byteAt sec 5 = some flags ∧ byteAt sec 6 = some number ∧
      patProgramsFrom sec 8 ∅ = some pids ∧
      t' = t.withPatSection (versionOf flags) number pids := by
  simp only [parsePAT, Option.bind_eq_bind, Option.bind_eq_some_iff] at h
  obtain ⟨flags, hflags, number, hnumber, pids, hpids, h⟩ := h
  refine ⟨flags, number, pids, hflags, hnumber, hpids, ?_⟩
  by_cases hversion : t.patVersion = some ((flags >>> 1) &&& 0x1f)
  all_goals
    simp only [hversion, ne_eq, not_true_eq_false, not_false_eq_true, if_true, if_false] at h
    split at h <;> obtain rfl := Option.some.inj h <;>
      simp_all [withPatSection, enter, sectionsFor, versionOf]

theorem parseCAT_cases (h : parseCAT sec t = some t') :
    ∃ flags number descriptors pids, byteAt sec 5 = some flags ∧ byteAt sec 6 = some number ∧
      slice sec 8 (sec.length - 4 - 8) = some descriptors ∧
      collectCaDescriptors t.caidFilter descriptors ∅ = some pids ∧
      t' = t.withCatSection (versionOf flags) number pids := by
  simp only [parseCAT, Option.bind_eq_bind, Option.bind_eq_some_iff] at h
  obtain ⟨flags, hflags, number, hnumber, descriptors, hdescriptors, pids, hpids, h⟩ := h
  refine ⟨flags, number, descriptors, pids, hflags, hnumber, hdescriptors, ?_⟩
  by_cases hversion : t.catVersion = some ((flags >>> 1) &&& 0x1f)
  all_goals
    simp only [hversion, ne_eq, not_true_eq_false, not_false_eq_true, if_true, if_false] at h hpids
    refine ⟨hpids, ?_⟩
    split at h <;> obtain rfl := Option.some.inj h <;>
      simp_all [withCatSection, enter, sectionsFor, versionOf]

theorem pmtStored_of_reads {flags lengthHigh lengthLow : ℕ} (hflags : byteAt sec 5 = some flags)
    (hhigh : byteAt sec 10 = some lengthHigh) (hlow : byteAt sec 11 = some lengthLow)
    (hversion : (t.infoOf pid).version ≠ some (versionOf flags))
    (hlength : 12 + lengthOfBytes lengthHigh lengthLow + 4 ≤ sec.length) :
    t.pmtStored pid sec =
      (pmtContents t.caidFilter sec (lengthOfBytes lengthHigh lengthLow)).map
        (versionOf flags, ·) := by
  simp only [pmtStored, hflags, hhigh, hlow, Option.bind_eq_bind, Option.bind_some]
  exact if_pos ⟨hversion, hlength⟩

theorem reads_of_pmtStored {version : ℕ} {ecmPids esPids : Finset ℕ}
    (h : t.pmtStored pid sec = some (version, ecmPids, esPids)) :
    ∃ flags lengthHigh lengthLow, byteAt sec 5 = some flags ∧
      byteAt sec 10 = some lengthHigh ∧ byteAt sec 11 = some lengthLow ∧
      version = versionOf flags ∧ (t.infoOf pid).version ≠ some version ∧
      12 + lengthOfBytes lengthHigh lengthLow + 4 ≤ sec.length := by
  simp only [pmtStored, Option.bind_eq_bind, Option.bind_eq_some_iff] at h
  obtain ⟨flags, hflags, lengthHigh, hhigh, lengthLow, hlow, h⟩ := h
  split_ifs at h with hnew
  obtain ⟨contents, -, hcontents⟩ := Option.map_eq_some_iff.mp h
  obtain rfl := (Prod.mk.inj hcontents).1
  exact ⟨flags, lengthHigh, lengthLow, hflags, hhigh, hlow, rfl, hnew.1, hnew.2⟩

theorem pmtStored_eq_none {flags : ℕ} (hflags : byteAt sec 5 = some flags)
    (h : (t.infoOf pid).version = some (versionOf flags) ∨
      ∀ lengthHigh lengthLow, byteAt sec 10 = some lengthHigh → byteAt sec 11 = some lengthLow →
        sec.length < 12 + lengthOfBytes lengthHigh lengthLow + 4) :
    t.pmtStored pid sec = none := by
  rw [Option.eq_none_iff_forall_ne_some]
  intro stored hstored
  obtain ⟨flags', lengthHigh, lengthLow, hflags', hhigh, hlow, hversion, hnew, hfits⟩ :=
    reads_of_pmtStored hstored
  obtain rfl := Option.some.inj (hflags.symm.trans hflags')
  rcases h with hsame | hlong
  · exact hnew (hversion ▸ hsame)
  · exact absurd hfits (Nat.not_le.mpr (hlong _ _ hhigh hlow))

theorem parsePMT_cases (h : parsePMT pid sec t = some t') :
    (t.pmtStored pid sec = none ∧ t' = t.withPmtEntry pid) ∨
      ∃ version ecmPids esPids, t.pmtStored pid sec = some (version, ecmPids, esPids) ∧
        t' = t.withPmtSection pid version ecmPids esPids := by
  simp only [parsePMT, Option.bind_eq_bind, Option.bind_eq_some_iff] at h
  obtain ⟨-, -, -, -, flags, hflags, h⟩ := h
  change (if (t.infoOf pid).version = some (versionOf flags) then some (t.withPmtEntry pid)
    else if sec.length < 12 + 4 then some (t.withPmtEntry pid) else _) = _ at h
  by_cases hversion : (t.infoOf pid).version = some (versionOf flags)
  · rw [if_pos hversion] at h
    exact Or.inl ⟨pmtStored_eq_none hflags (Or.inl hversion), (Option.some.inj h).symm⟩
  rw [if_neg hversion] at h
  by_cases hshort : sec.length < 12 + 4
  · rw [if_pos hshort] at h
    have hlong : t.pmtStored pid sec = none :=
      pmtStored_eq_none hflags (Or.inr fun _ _ _ _ ↦ by omega)
    exact Or.inl ⟨hlong, (Option.some.inj h).symm⟩
  rw [if_neg hshort] at h
  obtain ⟨lengthHigh, hhigh, h⟩ := Option.bind_eq_some_iff.mp h
  obtain ⟨lengthLow, hlow, h⟩ := Option.bind_eq_some_iff.mp h
  change (if sec.length < 12 + lengthOfBytes lengthHigh lengthLow + 4 then
    some (t.withPmtEntry pid) else _) = _ at h
  by_cases hlong : sec.length < 12 + lengthOfBytes lengthHigh lengthLow + 4
  · rw [if_pos hlong] at h
    refine Or.inl ⟨pmtStored_eq_none hflags (Or.inr fun high low hhigh' hlow' ↦ ?_),
      (Option.some.inj h).symm⟩
    obtain rfl := Option.some.inj (hhigh.symm.trans hhigh')
    obtain rfl := Option.some.inj (hlow.symm.trans hlow')
    exact hlong
  rw [if_neg hlong] at h
  obtain ⟨⟨ecmPids, esPids⟩, hcontents, h⟩ := Option.bind_eq_some_iff.mp h
  right
  refine ⟨versionOf flags, ecmPids, esPids, ?_, ?_⟩
  · rw [pmtStored_of_reads hflags hhigh hlow hversion (by omega), hcontents]
    rfl
  · change (if (t.infoOf pid).ecmPids ≠ ecmPids then _ else _) = _ at h
    by_cases hecm : (t.infoOf pid).ecmPids = ecmPids
    · rw [if_neg (not_not.mpr hecm)] at h
      subst hecm
      rw [← Option.some.inj h, withPmtSection]
      simp [infoOf, versionOf]
    · rw [if_pos hecm] at h
      rw [← Option.some.inj h, withPmtSection]
      simp [hecm, versionOf]

/-- A PMT section says nothing of another service. -/
theorem parsePMT_frame {otherPid : ℕ} (hne : pid ≠ otherPid)
    (hparse : parsePMT otherPid sec t = some t') :
    t'.pmt pid = t.pmt pid ∧ t'.caidFilter = t.caidFilter := by
  rcases parsePMT_cases hparse with ⟨-, rfl⟩ | ⟨version, ecmPids, esPids, -, rfl⟩
  · exact ⟨Function.update_of_ne hne _ _, rfl⟩
  · exact ⟨Function.update_of_ne hne _ _, rfl⟩

theorem dispatch_cases (h : dispatch pid sec t = some t') :
    t' = t ∨
      (pid = psiPidPat ∧ byteAt sec 0 = some 0x00 ∧ parsePAT sec t = some t') ∨
      (pid = psiPidCat ∧ byteAt sec 0 = some 0x01 ∧ parseCAT sec t = some t') ∨
      (pid ≠ psiPidPat ∧ pid ≠ psiPidCat ∧ byteAt sec 0 = some 0x02 ∧
        parsePMT pid sec t = some t') := by
  simp only [dispatch, Option.bind_eq_bind, Option.bind_eq_some_iff] at h
  obtain ⟨tableId, htableId, h⟩ := h
  split_ifs at h with hpat hid hcat hid hid
  · subst hid
    exact Or.inr (Or.inl ⟨hpat, htableId, h⟩)
  · exact Or.inl (Option.some.inj h).symm
  · subst hid
    exact Or.inr (Or.inr (Or.inl ⟨hcat, htableId, h⟩))
  · exact Or.inl (Option.some.inj h).symm
  · subst hid
    exact Or.inr (Or.inr (Or.inr ⟨hpat, hcat, htableId, h⟩))
  · exact Or.inl (Option.some.inj h).symm

/-- Everything `handleSection` can do: skip the section, count it, or hand it to the parser of the
table it belongs to. -/
theorem handleSection_cases (h : handleSection pid sec t = some t') :
    t' = t ∨ t' = t.countCrcError ∨ t' = t.countSection ∨
      (pid = psiPidPat ∧ IsTable sec 0x00 ∧ parsePAT sec t.countSection = some t') ∨
      (pid = psiPidCat ∧ IsTable sec 0x01 ∧ parseCAT sec t.countSection = some t') ∨
      (pid ≠ psiPidPat ∧ pid ≠ psiPidCat ∧ IsTable sec 0x02 ∧
        parsePMT pid sec t.countSection = some t') := by
  simp only [handleSection, Option.bind_eq_bind, Option.bind_eq_some_iff] at h
  obtain ⟨syntaxByte, hsyntax, h⟩ := h
  split_ifs at h with hbit hcrc
  · exact Or.inl (Option.some.inj h).symm
  · exact Or.inr (Or.inl (Option.some.inj h).symm)
  obtain ⟨flags, hflags, h⟩ := Option.bind_eq_some_iff.mp h
  split_ifs at h with hcurrent
  · exact Or.inr (Or.inr (Or.inl (Option.some.inj h).symm))
  have htable : ∀ tableId, byteAt sec 0 = some tableId → IsTable sec tableId := fun _ hid ↦
    ⟨hid, ⟨syntaxByte, hsyntax, hbit⟩, not_not.mp hcrc, flags, hflags, hcurrent⟩
  rcases dispatch_cases h with hskip | ⟨hpat, hid, h⟩ | ⟨hcat, hid, h⟩ | ⟨hpat, hcat, hid, h⟩
  · exact Or.inr (Or.inr (Or.inl hskip))
  · exact Or.inr (Or.inr (Or.inr (Or.inl ⟨hpat, htable _ hid, h⟩)))
  · exact Or.inr (Or.inr (Or.inr (Or.inr (Or.inl ⟨hcat, htable _ hid, h⟩))))
  · exact Or.inr (Or.inr (Or.inr (Or.inr (Or.inr ⟨hpat, hcat, htable _ hid, h⟩))))

/-- The settings and the joined pids are not the business of a section. -/
theorem handleSection_settings (h : handleSection pid sec t = some t') :
    t'.emmEnabled = t.emmEnabled ∧ t'.caidFilter = t.caidFilter ∧ t'.joinedPids = t.joinedPids := by
  rcases handleSection_cases h with rfl | rfl | rfl | ⟨-, -, h⟩ | ⟨-, -, h⟩ | ⟨-, -, -, h⟩
  case inl | inr.inl | inr.inr.inl => exact ⟨rfl, rfl, rfl⟩
  · obtain ⟨flags, number, pids, -, -, -, rfl⟩ := parsePAT_cases h
    exact ⟨rfl, rfl, rfl⟩
  · obtain ⟨flags, number, descriptors, pids, -, -, -, -, rfl⟩ := parseCAT_cases h
    exact ⟨rfl, rfl, rfl⟩
  · rcases parsePMT_cases h with ⟨-, rfl⟩ | ⟨version, ecmPids, esPids, -, rfl⟩
    · exact ⟨rfl, rfl, rfl⟩
    · exact ⟨rfl, rfl, rfl⟩

/-- The other direction: a complete section of the right table reaches its parser. -/
theorem handleSection_of_isTable {tableId : ℕ} (htable : IsTable sec tableId) :
    handleSection pid sec t = dispatch pid sec t.countSection := by
  obtain ⟨syntaxByte, hsyntax, hbit⟩ := htable.syntax_bit
  obtain ⟨flags, hflags, hcurrent⟩ := htable.current_next
  rw [Option.mem_def] at hsyntax hflags
  simp only [handleSection, hsyntax, hflags, Option.bind_eq_bind, Option.bind_some, hbit,
    htable.crc, hcurrent, ne_eq, not_true_eq_false, if_false]
  rfl

/-! ## What it means for `recompute` -/

theorem infoOf_of_pmt {info : PmtInfo} (h : t.pmt pid = some info) : t.infoOf pid = info := by
  rw [infoOf, h, Option.getD_some]

theorem isActive_eq (t : Tables) (pid : ℕ) :
    t.isActive pid = decide (∃ es ∈ (t.infoOf pid).esPids, es ∈ t.joinedPids) := by
  unfold isActive infoOf
  cases t.pmt pid <;> simp

theorem servicePids_eq (t : Tables) (pid : ℕ) :
    t.servicePids pid = insert pid (t.infoOf pid).ecmPids := by
  unfold servicePids infoOf
  cases t.pmt pid <;> rfl

/-- A service with a joined elementary stream calls for its PMT pid and its ECM pids. -/
def calledFor (joinedPids : Finset ℕ) (pid : ℕ) (info : PmtInfo) : Finset ℕ :=
  if ∃ es ∈ info.esPids, es ∈ joinedPids then insert pid info.ecmPids else ∅

theorem calledFor_infoOf (t : Tables) (pid : ℕ) :
    calledFor t.joinedPids pid (t.infoOf pid) =
      if t.isActive pid then t.servicePids pid else ∅ := by
  rw [calledFor, isActive_eq, servicePids_eq]
  simp only [decide_eq_true_eq]

/-- An active service adds to the wanted pids what it calls for. -/
theorem mem_wantedPids_iff (t : Tables) (listed : ℕ) :
    listed ∈ t.wantedPids ↔
      listed ∈ insert psiPidPat (if t.emmEnabled then insert psiPidCat t.emmPids else ∅) ∨
        ∃ pid ∈ t.patPmtPids, listed ∈ calledFor t.joinedPids pid (t.infoOf pid) := by
  rw [wantedPids, Finset.mem_union, Finset.mem_biUnion]
  apply or_congr_right
  apply exists_congr
  intro pid
  rw [Finset.mem_filter, calledFor_infoOf, and_assoc]
  apply and_congr_right
  intro _
  cases t.isActive pid <;> simp

/-- The set depends on the EMM pids, on which services are listed and on what each of them calls
for. -/
theorem caPids_congr
    (hemm : (if t'.emmEnabled then insert psiPidCat t'.emmPids else ∅) =
      if t.emmEnabled then insert psiPidCat t.emmPids else ∅)
    (hlisted : t'.patPmtPids = t.patPmtPids)
    (hcalled : ∀ pid ∈ t.patPmtPids, calledFor t'.joinedPids pid (t'.infoOf pid) =
      calledFor t.joinedPids pid (t.infoOf pid)) : t'.caPids = t.caPids := by
  have hwanted : t'.wantedPids = t.wantedPids := by
    ext listed
    rw [mem_wantedPids_iff, mem_wantedPids_iff, hemm, hlisted]
    apply or_congr_right
    apply exists_congr
    intro pid
    apply and_congr_right
    intro hpid
    rw [hcalled pid hpid]
  rw [caPids, caPids, hwanted]

/-- Two tables give `recompute` the same inputs and agree on whether it is due. -/
structure SameInputs (t t' : Tables) : Prop where
  emmEnabled : t'.emmEnabled = t.emmEnabled
  emmPids : t'.emmPids = t.emmPids
  patPmtPids : t'.patPmtPids = t.patPmtPids
  dirty : t'.dirty = t.dirty
  isActive : ∀ pid ∈ t.patPmtPids, t'.isActive pid = t.isActive pid
  servicePids : ∀ pid ∈ t.patPmtPids, t'.servicePids pid = t.servicePids pid

theorem SameInputs.watchSet_eq (h : SameInputs t t') : t'.watchSet = t.watchSet := by
  rw [watchSet, watchSet, h.emmEnabled, h.patPmtPids]

theorem SameInputs.caPids_eq (h : SameInputs t t') : t'.caPids = t.caPids := by
  apply caPids_congr
  · rw [h.emmEnabled, h.emmPids]
  · exact h.patPmtPids
  · intro pid hpid
    rw [calledFor_infoOf, calledFor_infoOf, h.isActive pid hpid, h.servicePids pid hpid]

theorem SameInputs.of_pmt_eq (hemm : t'.emmEnabled = t.emmEnabled)
    (hemmPids : t'.emmPids = t.emmPids) (hpat : t'.patPmtPids = t.patPmtPids)
    (hdirty : t'.dirty = t.dirty) (hjoined : t'.joinedPids = t.joinedPids)
    (hpmt : t'.pmt = t.pmt) : SameInputs t t' where
  emmEnabled := hemm
  emmPids := hemmPids
  patPmtPids := hpat
  dirty := hdirty
  isActive pid _ := by unfold Tables.isActive; rw [hpmt, hjoined]
  servicePids pid _ := by unfold Tables.servicePids; rw [hpmt]

theorem SameInputs.of_countSection (h : SameInputs t.countSection t') : SameInputs t t' :=
  ⟨h.emmEnabled, h.emmPids, h.patPmtPids, h.dirty, h.isActive, h.servicePids⟩

/-- The defect of `parsePMT` in terms of the state before it: a PMT section of a listed service
has a version not seen before, confirms the ECM pids and changes whether the service carries a
joined elementary stream. -/
structure SilentEsChange (t : Tables) (pid : ℕ) (sec : List UInt8) : Prop where
  isTable : IsTable sec 0x02
  ne_pat : pid ≠ psiPidPat
  ne_cat : pid ≠ psiPidCat
  listed : pid ∈ t.patPmtPids
  confirms : ∃ stored ∈ t.pmtStored pid sec, stored.2.1 = (t.infoOf pid).ecmPids ∧
    ¬((∃ es ∈ stored.2.2, es ∈ t.joinedPids) ↔
      ∃ es ∈ (t.infoOf pid).esPids, es ∈ t.joinedPids)

instance (t : Tables) (pid : ℕ) (sec : List UInt8) : Decidable (t.SilentEsChange pid sec) :=
  decidable_of_iff (IsTable sec 0x02 ∧ pid ≠ psiPidPat ∧ pid ≠ psiPidCat ∧ pid ∈ t.patPmtPids ∧
      ∃ stored ∈ t.pmtStored pid sec, stored.2.1 = (t.infoOf pid).ecmPids ∧
        ¬((∃ es ∈ stored.2.2, es ∈ t.joinedPids) ↔
          ∃ es ∈ (t.infoOf pid).esPids, es ∈ t.joinedPids))
    ⟨fun h ↦ ⟨h.1, h.2.1, h.2.2.1, h.2.2.2.1, h.2.2.2.2⟩,
      fun h ↦ ⟨h.isTable, h.ne_pat, h.ne_cat, h.listed, h.confirms⟩⟩

theorem infoOf_update (t : Tables) (pmt : ℕ → Option PmtInfo) (pid : ℕ) (info : PmtInfo)
    (other : ℕ) :
    infoOf { t with pmt := Function.update pmt pid (some info) } other =
      if other = pid then info else (pmt other).getD {} := by
  unfold infoOf
  by_cases h : other = pid
  · subst h
    simp
  · simp [h]

/-- Only what is known about one service has changed, and neither its ECM pids nor whether it is
active have. -/
theorem SameInputs.of_update (version : Option ℕ) {esPids : Finset ℕ}
    (hactive : pid ∈ t.patPmtPids → ((∃ es ∈ esPids, es ∈ t.joinedPids) ↔
      ∃ es ∈ (t.infoOf pid).esPids, es ∈ t.joinedPids)) :
    SameInputs t { t with
      pmt := Function.update t.pmt pid (some ⟨version, (t.infoOf pid).ecmPids, esPids⟩) } where
  emmEnabled := rfl
  emmPids := rfl
  patPmtPids := rfl
  dirty := rfl
  isActive other hlisted := by
    rw [isActive_eq, isActive_eq, infoOf_update]
    by_cases hother : other = pid
    · subst hother
      simpa using hactive hlisted
    · rw [if_neg hother]
      rfl
  servicePids other _ := by
    rw [servicePids_eq, servicePids_eq, infoOf_update]
    by_cases hother : other = pid
    · subst hother
      simp
    · simp [hother, infoOf]

theorem parsePAT_effect (h : parsePAT sec t = some t') : t'.dirty = true ∨ SameInputs t t' := by
  obtain ⟨flags, number, pids, -, -, -, rfl⟩ := parsePAT_cases h
  by_cases hall : sectionUnion (enter t.patVersion t.patSections (versionOf flags) number pids) =
      t.patPmtPids
  · right
    apply SameInputs.of_pmt_eq <;> simp [withPatSection, hall]
  · left
    simp [withPatSection, hall]

theorem parseCAT_effect (h : parseCAT sec t = some t') : t'.dirty = true ∨ SameInputs t t' := by
  obtain ⟨flags, number, descriptors, pids, -, -, -, -, rfl⟩ := parseCAT_cases h
  by_cases hall : sectionUnion (enter t.catVersion t.catSections (versionOf flags) number pids) =
      t.emmPids
  · right
    apply SameInputs.of_pmt_eq <;> simp [withCatSection, hall]
  · left
    simp [withCatSection, hall]

theorem parsePMT_effect (h : parsePMT pid sec t = some t') :
    t'.dirty = true ∨ SameInputs t t' ∨
      ∃ version esPids, t.pmtStored pid sec = some (version, (t.infoOf pid).ecmPids, esPids) ∧
        t' = t.withPmtSection pid version (t.infoOf pid).ecmPids esPids := by
  rcases parsePMT_cases h with ⟨-, rfl⟩ | ⟨version, ecmPids, esPids, hstored, rfl⟩
  · exact Or.inr (Or.inl (SameInputs.of_update _ fun _ ↦ Iff.rfl))
  by_cases hecm : (t.infoOf pid).ecmPids = ecmPids
  · subst hecm
    exact Or.inr (Or.inr ⟨version, esPids, hstored, rfl⟩)
  · left
    simp [withPmtSection, hecm]

/-- What a section does to the inputs of `recompute`. -/
theorem handleSection_effect (h : handleSection pid sec t = some t') :
    t'.dirty = true ∨ SameInputs t t' ∨ t.SilentEsChange pid sec := by
  rcases handleSection_cases h with rfl | rfl | rfl | ⟨-, -, h⟩ | ⟨-, -, h⟩ |
    ⟨hpat, hcat, htable, h⟩
  case inl | inr.inl | inr.inr.inl =>
    exact Or.inr (Or.inl (SameInputs.of_pmt_eq rfl rfl rfl rfl rfl rfl))
  · exact (parsePAT_effect h).imp_right fun hsame ↦ Or.inl hsame.of_countSection
  · exact (parseCAT_effect h).imp_right fun hsame ↦ Or.inl hsame.of_countSection
  rcases parsePMT_effect h with hdirty | hsame | ⟨version, esPids, hstored, rfl⟩
  · exact Or.inl hdirty
  · exact Or.inr (Or.inl hsame.of_countSection)
  by_cases hflips : pid ∈ t.patPmtPids → ((∃ es ∈ esPids, es ∈ t.joinedPids) ↔
      ∃ es ∈ (t.infoOf pid).esPids, es ∈ t.joinedPids)
  · have hsame : SameInputs t.countSection (t.countSection.withPmtSection pid version
        (t.countSection.infoOf pid).ecmPids esPids) := by
      simpa [withPmtSection] using
        SameInputs.of_update (t := t.countSection) (some version) hflips
    exact Or.inr (Or.inl hsame.of_countSection)
  · obtain ⟨hlisted, hflips⟩ := Classical.not_imp.mp hflips
    exact Or.inr (Or.inr ⟨htable, hpat, hcat, hlisted, _, hstored, rfl, hflips⟩)

end Tables

end SatipClient.PSI
