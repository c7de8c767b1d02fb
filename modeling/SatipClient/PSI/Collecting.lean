import SatipClient.PSI.Retune
import SatipClient.PSI.Sections

/-!
# Collecting the sections of a table

A PAT or a CAT may be split into sections.  Once each section of a new version has arrived, in any
order and however often, the table is the union of all of them (`tables_collected`), whatever was
left in the section map before.
-/

namespace SatipClient.PSI

open Checked
open Tables (enter sectionsFor sectionUnion mem_sectionUnion patProgramsFrom emmPidsIn versionOf
  IsTable)

/-- What a section map holds while the sections of one version arrive.  Before the first of them
another version is known, and anything may be stored; then there is one entry for each of them. -/
def Collected (version : ℕ) (read : List UInt8 → Option (Finset ℕ))
    (received : List (List UInt8)) (known : Option ℕ) (stored : ℕ → Option (Finset ℕ))
    (all : Finset ℕ) : Prop :=
  if received = [] then known ≠ some version
  else known = some version ∧ all = sectionUnion stored ∧
    ∀ number pids, stored number = some pids ↔
      ∃ sec ∈ received, byteAt sec 6 = some number ∧ read sec = some pids

variable {version number pid : ℕ} {read : List UInt8 → Option (Finset ℕ)} {sec : List UInt8}
  {received : List (List UInt8)} {known : Option ℕ} {stored : ℕ → Option (Finset ℕ)}
  {all pids : Finset ℕ} {t t' : Tables}

theorem sectionsFor_of_collected (h : Collected version read received known stored all) (place : ℕ)
    (found : Finset ℕ) : sectionsFor known stored version place = some found ↔
      ∃ sec ∈ received, byteAt sec 6 = some place ∧ read sec = some found := by
  unfold Collected at h
  unfold sectionsFor
  split_ifs at h with hnone
  · rw [if_neg h, hnone]
    simp
  · rw [if_pos h.1]
    exact h.2.2 place found

/-- One more section of the version is entered. -/
theorem Collected.enter (h : Collected version read received known stored all)
    (hnumber : byteAt sec 6 = some number) (hread : read sec = some pids)
    (hone : ∀ other ∈ received, byteAt other 6 = byteAt sec 6 → other = sec) :
    Collected version read (received ++ [sec]) (some version)
      (enter known stored version number pids)
      (sectionUnion (enter known stored version number pids)) := by
  unfold Collected
  rw [if_neg (by simp)]
  refine ⟨rfl, rfl, fun place found ↦ ?_⟩
  simp only [List.mem_append, List.mem_singleton]
  by_cases hplace : place = number
  · subst hplace
    rw [Tables.enter, Function.update_self]
    constructor
    · intro hfound
      exact ⟨sec, Or.inr rfl, hnumber, hread.trans hfound⟩
    · rintro ⟨other, hother, hnumber', hread'⟩
      have hsame : other = sec :=
        hother.elim (fun hmem ↦ hone other hmem (hnumber'.trans hnumber.symm)) id
      rw [← hread, ← hread', hsame]
  · rw [Tables.enter, Function.update_of_ne hplace, sectionsFor_of_collected h]
    constructor
    · rintro ⟨other, hother, hfound⟩
      exact ⟨other, Or.inl hother, hfound⟩
    · rintro ⟨other, hother | rfl, hnumber', hread'⟩
      · exact ⟨other, hother, hnumber', hread'⟩
      · exact absurd (Option.some.inj (hnumber'.symm.trans hnumber)) hplace

/-- The pids are those of the sections that arrived. -/
theorem Collected.mem_all_iff (h : Collected version read received known stored all)
    (hne : received ≠ []) (hnumber : ∀ sec ∈ received, ∃ number, byteAt sec 6 = some number) :
    pid ∈ all ↔ ∃ sec ∈ received, ∃ pids, read sec = some pids ∧ pid ∈ pids := by
  unfold Collected at h
  rw [if_neg hne] at h
  obtain ⟨-, hall, hstored⟩ := h
  rw [hall, mem_sectionUnion]
  constructor
  · rintro ⟨number, -, hpid⟩
    cases hfound : stored number with
    | none => simp [hfound] at hpid
    | some pids =>
      obtain ⟨sec, hsec, -, hread⟩ := (hstored number pids).mp hfound
      rw [hfound] at hpid
      exact ⟨sec, hsec, pids, hread, hpid⟩
  · rintro ⟨sec, hsec, pids, hread, hpid⟩
    obtain ⟨number, hnum⟩ := hnumber sec hsec
    have hfound : stored number = some pids := (hstored number pids).mpr ⟨sec, hsec, hnum, hread⟩
    exact ⟨number, byteAt_lt hnum, by rwa [hfound]⟩

/-! ## The two tables -/

/-- These sections of a PAT version have arrived. -/
def Tables.PatCollected (version : ℕ) (received : List (List UInt8)) (t : Tables) : Prop :=
  Collected version (fun sec ↦ patProgramsFrom sec 8 ∅) received t.patVersion t.patSections
    t.patPmtPids

/-- These sections of a CAT version have arrived. -/
def Tables.CatCollected (version : ℕ) (received : List (List UInt8)) (t : Tables) : Prop :=
  Collected version (emmPidsIn t.caidFilter) received t.catVersion t.catSections t.emmPids

/-- A section of this version. -/
structure OfVersion (tableId version : ℕ) (sec : List UInt8) : Prop where
  isTable : IsTable sec tableId
  version_eq : (byteAt sec 5).map versionOf = some version

theorem Tables.PatCollected.handleSection (h : t.PatCollected version received)
    (hsec : OfVersion 0x00 version sec)
    (hone : ∀ other ∈ received, byteAt other 6 = byteAt sec 6 → other = sec)
    (hhandle : handleSection psiPidPat sec t = some t') :
    t'.PatCollected version (received ++ [sec]) := by
  have htable : IsTable sec (tableOf psiPidPat) := hsec.isTable
  rw [handleSection_of_tableOf htable, if_pos rfl] at hhandle
  obtain ⟨flags, number, pids, hflags, hnumber, hpids, rfl⟩ := parsePAT_cases hhandle
  have hversion := hsec.version_eq
  rw [hflags, Option.map_some, Option.some_inj] at hversion
  subst hversion
  exact Collected.enter h hnumber hpids hone

theorem Tables.CatCollected.handleSection (h : t.CatCollected version received)
    (hsec : OfVersion 0x01 version sec)
    (hone : ∀ other ∈ received, byteAt other 6 = byteAt sec 6 → other = sec)
    (hhandle : handleSection psiPidCat sec t = some t') :
    t'.CatCollected version (received ++ [sec]) := by
  have htable : IsTable sec (tableOf psiPidCat) := hsec.isTable
  rw [handleSection_of_tableOf htable, if_neg (by decide), if_pos rfl] at hhandle
  obtain ⟨flags, number, descriptors, pids, hflags, hnumber, hdescriptors, hpids, rfl⟩ :=
    parseCAT_cases hhandle
  have hversion := hsec.version_eq
  rw [hflags, Option.map_some, Option.some_inj] at hversion
  subst hversion
  have hread : emmPidsIn t.caidFilter sec = some pids := by
    simp only [emmPidsIn, hdescriptors, Option.bind_eq_bind, Option.bind_some]
    exact hpids
  exact Collected.enter h hnumber hread hone

/-- A section on another pid leaves them alone. -/
theorem Tables.PatCollected.of_ne {other : ℕ} (h : t.PatCollected version received)
    (hother : other ≠ psiPidPat) (hhandle : Tables.handleSection other sec t = some t') :
    t'.PatCollected version received := by
  rcases handleSection_cases hhandle with rfl | rfl | rfl | ⟨hpat, -⟩ | ⟨-, -, hparse⟩ |
    ⟨-, -, -, hparse⟩
  case inl | inr.inl | inr.inr.inl => exact h
  · exact absurd hpat hother
  · obtain ⟨flags, number, descriptors, pids, -, -, -, -, rfl⟩ := parseCAT_cases hparse
    exact h
  · rcases parsePMT_cases hparse with ⟨-, rfl⟩ | ⟨version, ecmPids, esPids, -, rfl⟩ <;> exact h

theorem Tables.CatCollected.of_ne {other : ℕ} (h : t.CatCollected version received)
    (hother : other ≠ psiPidCat) (hhandle : Tables.handleSection other sec t = some t') :
    t'.CatCollected version received := by
  rcases handleSection_cases hhandle with rfl | rfl | rfl | ⟨-, -, hparse⟩ | ⟨hcat, -⟩ |
    ⟨-, -, -, hparse⟩
  case inl | inr.inl | inr.inr.inl => exact h
  · obtain ⟨flags, number, pids, -, -, -, rfl⟩ := parsePAT_cases hparse
    exact h
  · exact absurd hcat hother
  · rcases parsePMT_cases hparse with ⟨-, rfl⟩ | ⟨version, ecmPids, esPids, -, rfl⟩ <;> exact h

/-! ## Any sequence of the sections -/

/-- The sections of a table of one version: they apply, and they are numbered from 0 on. -/
structure Numbered (version : ℕ) (sections : List Section) : Prop where
  nonempty : sections ≠ []
  current : ∀ sec ∈ sections, sec.Current
  version_eq : ∀ sec ∈ sections, sec.version = version
  number_eq : sections.map (fun sec ↦ sec.header.number.toNat) = List.range sections.length

namespace Numbered

variable {table : List Section}

theorem eq_of_number_eq (h : Numbered version table) {sec other : Section} (hsec : sec ∈ table)
    (hother : other ∈ table) (hnumber : byteAt other.bytes 6 = byteAt sec.bytes 6) :
    other.bytes = sec.bytes := by
  have hnodup : (table.map fun sec ↦ sec.header.number.toNat).Nodup := by
    rw [h.number_eq]
    exact List.nodup_range
  rw [sec.byteAt_number, other.byteAt_number, Option.some_inj] at hnumber
  rw [List.inj_on_of_nodup_map hnodup hother hsec hnumber]

theorem ofVersion (h : Numbered version table) {sec : Section} (hsec : sec ∈ table)
    {tableId : ℕ} (htable : sec.header.tableId.toNat = tableId) :
    OfVersion tableId version sec.bytes where
  isTable := htable ▸ sec.isTable (h.current sec hsec)
  version_eq := by
    rw [sec.byteAt_flags, ← h.version_eq sec hsec]
    rfl

end Numbered

/-- What each of these sections does to the property with the sections before it, all of them do. -/
theorem handleAll_history {motive : List (List UInt8) → SatipPSI → Prop}
    {secs : List (List UInt8)} {s next : SatipPSI}
    (hstep : ∀ received s, ∀ sec ∈ secs, ∀ next, (∀ other ∈ received, other ∈ secs) →
      motive received s → handleSection pid sec s = some next → motive (received ++ [sec]) next)
    (hstart : motive [] s) (h : handleAll pid secs s = some next) : motive secs next := by
  have hfrom : ∀ back front s, front ++ back = secs → motive front s →
      handleAll pid back s = some next → motive secs next := by
    intro back
    induction back with
    | nil =>
      rintro front s rfl hmotive hrun
      obtain rfl := Option.some.inj hrun
      rwa [List.append_nil]
    | cons sec back ih =>
      intro front s hsplit hmotive hrun
      rw [handleAll_cons, Option.bind_eq_some_iff] at hrun
      obtain ⟨mid, hmid, hrun⟩ := hrun
      have hsec : sec ∈ secs := by
        rw [← hsplit]
        simp
      have hfront : ∀ other ∈ front, other ∈ secs := fun other hother ↦ by
        rw [← hsplit]
        exact List.mem_append_left _ hother
      exact ih (front ++ [sec]) mid (by rw [← hsplit]; simp)
        (hstep front s sec hsec mid hfront hmotive hmid) hrun
  exact hfrom secs [] s rfl hstart h

/-- These are sections of the table, and every one of them is there. -/
structure Covers (table : List Section) (received : List (List UInt8)) : Prop where
  exists_of_mem : ∀ sec ∈ received, ∃ x ∈ table, x.bytes = sec
  bytes_mem : ∀ x ∈ table, x.bytes ∈ received

theorem covers_map {table sequence : List Section} (hof : sequence ⊆ table)
    (hall : table ⊆ sequence) : Covers table (sequence.map Section.bytes) where
  exists_of_mem _ hsec := by
    obtain ⟨sec, hmem, rfl⟩ := List.mem_map.mp hsec
    exact ⟨sec, hof hmem, rfl⟩
  bytes_mem _ hsec := List.mem_map_of_mem (hall hsec)

/-- What arrived, when every section of the table did. -/
theorem Collected.mem_all_iff_of_covers {table : List Section}
    (h : Collected version read received known stored all) (htable : Numbered version table)
    (hcovers : Covers table received) :
    pid ∈ all ↔ ∃ sec ∈ table, ∃ pids, read sec.bytes = some pids ∧ pid ∈ pids := by
  have hne : received ≠ [] := by
    obtain ⟨sec, hsec⟩ := List.exists_mem_of_ne_nil _ htable.nonempty
    exact List.ne_nil_of_mem (hcovers.bytes_mem sec hsec)
  have hnumber : ∀ sec ∈ received, ∃ number, byteAt sec 6 = some number := by
    intro sec hsec
    obtain ⟨x, -, rfl⟩ := hcovers.exists_of_mem sec hsec
    exact ⟨_, x.byteAt_number⟩
  rw [h.mem_all_iff hne hnumber]
  constructor
  · rintro ⟨sec, hsec, hpids⟩
    obtain ⟨x, hx, rfl⟩ := hcovers.exists_of_mem sec hsec
    exact ⟨x, hx, hpids⟩
  · rintro ⟨x, hx, hpids⟩
    exact ⟨x.bytes, hcovers.bytes_mem x hx, hpids⟩

theorem Tables.PatCollected.mem_patPmtPids_iff {table : List PatSection}
    (h : t.PatCollected version received) (htable : Numbered version (table.map (·.toSection)))
    (hcovers : Covers (table.map (·.toSection)) received) :
    pid ∈ t.patPmtPids ↔ Usable pid ∧
      ∃ sec ∈ table, ∃ entry ∈ sec.entries, entry.programNumber ≠ 0 ∧ entry.pid = pid := by
  rw [Collected.mem_all_iff_of_covers h htable hcovers]
  simp only [List.mem_map, exists_exists_and_eq_and, ← PatSection.listsPmtPid_iff]
  constructor
  · rintro ⟨sec, hsec, pids, hpids, hpid⟩
    obtain ⟨husable, hlists⟩ := (mem_patPrograms_iff hpids).mp hpid
    exact ⟨husable, sec, hsec, hlists⟩
  · rintro ⟨husable, sec, hsec, hlists⟩
    obtain ⟨pids, hpids⟩ := exists_patProgramsFrom sec.bytes 8 ∅
    exact ⟨sec, hsec, pids, hpids, (mem_patPrograms_iff hpids).mpr ⟨husable, hlists⟩⟩

theorem Tables.CatCollected.mem_emmPids_iff {table : List CatSection}
    (h : t.CatCollected version received) (htable : Numbered version (table.map (·.toSection)))
    (hcovers : Covers (table.map (·.toSection)) received) :
    pid ∈ t.emmPids ↔ Usable pid ∧ ∃ sec ∈ table, ∃ descriptor ∈ sec.descriptors,
      descriptor.NamesCaPid t.caidFilter pid := by
  rw [Collected.mem_all_iff_of_covers h htable hcovers]
  simp only [List.mem_map, exists_exists_and_eq_and, ← CatSection.namesEmmPid_iff]
  constructor
  · rintro ⟨sec, hsec, pids, hpids, hpid⟩
    obtain ⟨descriptors, hdescriptors, hpids⟩ := Option.bind_eq_some_iff.mp hpids
    obtain ⟨husable, hnames⟩ :=
      (Tables.mem_emmPids_iff sec.isSection.2.1 hdescriptors hpids).mp hpid
    exact ⟨husable, sec, hsec, hnames⟩
  · rintro ⟨husable, sec, hsec, hnames⟩
    have hlength := sec.isSection.2.1
    obtain ⟨descriptors, -, hdescriptors⟩ :=
      exists_slice (show 8 + (sec.bytes.length - 4 - 8) ≤ sec.bytes.length by omega)
    obtain ⟨pids, hpids⟩ := exists_collectCaDescriptors t.caidFilter descriptors ∅
    have hread : emmPidsIn t.caidFilter sec.bytes = some pids := by
      simp only [emmPidsIn, hdescriptors, Option.bind_eq_bind, Option.bind_some]
      exact hpids
    exact ⟨sec, hsec, pids, hread,
      (Tables.mem_emmPids_iff hlength hdescriptors hpids).mpr ⟨husable, hnames⟩⟩

/-! ### Handed over one by one -/

/-- A property that each of the sections carries on with one section more holds of the sections of
a sequence once they were handed over. -/
theorem Numbered.handleAll {P : List (List UInt8) → Tables → Prop} {tableId : ℕ}
    {table sequence : List Section} {s next : SatipPSI}
    (hstep : ∀ received t sec t', P received t → OfVersion tableId version sec →
      (∀ other ∈ received, byteAt other 6 = byteAt sec 6 → other = sec) →
        Tables.handleSection pid sec t = some t' → P (received ++ [sec]) t')
    (htable : Numbered version table) (hid : ∀ sec ∈ table, sec.header.tableId.toNat = tableId)
    (hof : sequence ⊆ table) (hstart : P [] s.tables)
    (h : handleAll pid (sequence.map Section.bytes) s = some next) :
    P (sequence.map Section.bytes) next.tables := by
  refine handleAll_history (motive := fun received s ↦ P received s.tables) ?_ hstart h
  intro received s _ hsec next hreceived hmotive hnext
  obtain ⟨sec, hmem, rfl⟩ := List.mem_map.mp hsec
  obtain ⟨tables, htables, rfl⟩ := exists_tables_of_handleSection hnext
  refine hstep received _ _ _ hmotive (htable.ofVersion (hof hmem) (hid sec (hof hmem))) ?_ htables
  intro _ hother hnumber
  obtain ⟨other, hmem', rfl⟩ := List.mem_map.mp (hreceived _ hother)
  exact htable.eq_of_number_eq (hof hmem) (hof hmem') hnumber

theorem exists_handleAll_sections (pid : ℕ) (sequence : List Section) (s : SatipPSI) :
    ∃ next, handleAll pid (sequence.map Section.bytes) s = some next := by
  apply exists_handleAll
  intro _ hsec
  obtain ⟨sec, -, rfl⟩ := List.mem_map.mp hsec
  exact sec.isSection

theorem caidFilter_handleAll {secs : List (List UInt8)} {s next : SatipPSI}
    (h : handleAll pid secs s = some next) : next.tables.caidFilter = s.tables.caidFilter := by
  refine handleAll_rule (motive := fun mid ↦ mid.tables.caidFilter = s.tables.caidFilter) ?_ rfl h
  intro mid sec after hmid hafter
  obtain ⟨tables, htables, rfl⟩ := exists_tables_of_handleSection hafter
  exact (Tables.handleSection_settings htables).2.1.trans hmid

theorem tableId_of_mem_pat {table : List PatSection} :
    ∀ sec ∈ table.map (·.toSection), sec.header.tableId.toNat = 0x00 := by
  intro _ hsec
  obtain ⟨sec, -, rfl⟩ := List.mem_map.mp hsec
  rw [sec.tableId_eq]
  rfl

theorem tableId_of_mem_cat {table : List CatSection} :
    ∀ sec ∈ table.map (·.toSection), sec.header.tableId.toNat = 0x01 := by
  intro _ hsec
  obtain ⟨sec, -, rfl⟩ := List.mem_map.mp hsec
  rw [sec.tableId_eq]
  rfl

theorem exists_patCollected {table sequence : List PatSection} {s : SatipPSI}
    (htable : Numbered version (table.map (·.toSection)))
    (hnew : s.tables.patVersion ≠ some version) (hof : sequence ⊆ table)
    (hall : table ⊆ sequence) :
    ∃ next, handleAll psiPidPat (sequence.map (·.bytes)) s = some next ∧
      ∀ pid, pid ∈ next.tables.patPmtPids ↔ Usable pid ∧
        ∃ sec ∈ table, ∃ entry ∈ sec.entries, entry.programNumber ≠ 0 ∧ entry.pid = pid := by
  have hbytes : sequence.map (·.bytes) = (sequence.map (·.toSection)).map Section.bytes := by simp
  have hof' := List.map_subset (·.toSection) hof
  have hall' := List.map_subset (·.toSection) hall
  obtain ⟨next, hnext⟩ := exists_handleAll_sections psiPidPat (sequence.map (·.toSection)) s
  have hcollected : next.tables.PatCollected version
      ((sequence.map (·.toSection)).map Section.bytes) :=
    htable.handleAll (P := Tables.PatCollected version)
      (fun _ _ _ _ h ↦ Tables.PatCollected.handleSection h) tableId_of_mem_pat hof' hnew hnext
  rw [hbytes]
  exact ⟨next, hnext, fun pid ↦ hcollected.mem_patPmtPids_iff htable (covers_map hof' hall')⟩

theorem exists_catCollected {table sequence : List CatSection} {s : SatipPSI}
    (htable : Numbered version (table.map (·.toSection)))
    (hnew : s.tables.catVersion ≠ some version) (hof : sequence ⊆ table)
    (hall : table ⊆ sequence) :
    ∃ next, handleAll psiPidCat (sequence.map (·.bytes)) s = some next ∧
      ∀ pid, pid ∈ next.tables.emmPids ↔ Usable pid ∧ ∃ sec ∈ table,
        ∃ descriptor ∈ sec.descriptors, descriptor.NamesCaPid s.tables.caidFilter pid := by
  have hbytes : sequence.map (·.bytes) = (sequence.map (·.toSection)).map Section.bytes := by simp
  have hof' := List.map_subset (·.toSection) hof
  have hall' := List.map_subset (·.toSection) hall
  obtain ⟨next, hnext⟩ := exists_handleAll_sections psiPidCat (sequence.map (·.toSection)) s
  have hcollected : next.tables.CatCollected version
      ((sequence.map (·.toSection)).map Section.bytes) :=
    htable.handleAll (P := Tables.CatCollected version)
      (fun _ _ _ _ h ↦ Tables.CatCollected.handleSection h) tableId_of_mem_cat hof' hnew hnext
  rw [hbytes, ← caidFilter_handleAll hnext]
  exact ⟨next, hnext, fun pid ↦ hcollected.mem_emmPids_iff htable (covers_map hof' hall')⟩

/-- From every state that knows another version of a table, any sequence of its sections with each
of them at least once leaves the table as the union of them all: the usable PMT pids of the
programs of a PAT, the usable pids of the CA descriptors of a CAT that are allowed. -/
theorem tables_collected (s : SatipPSI) (version : ℕ) :
    (∀ table sequence : List PatSection, Numbered version (table.map (·.toSection)) →
      s.tables.patVersion ≠ some version → sequence ⊆ table → table ⊆ sequence →
        ∃ next, handleAll psiPidPat (sequence.map (·.bytes)) s = some next ∧
          ∀ pid, pid ∈ next.tables.patPmtPids ↔ Usable pid ∧
            ∃ sec ∈ table, ∃ entry ∈ sec.entries, entry.programNumber ≠ 0 ∧ entry.pid = pid) ∧
      ∀ table sequence : List CatSection, Numbered version (table.map (·.toSection)) →
        s.tables.catVersion ≠ some version → sequence ⊆ table → table ⊆ sequence →
          ∃ next, handleAll psiPidCat (sequence.map (·.bytes)) s = some next ∧
            ∀ pid, pid ∈ next.tables.emmPids ↔ Usable pid ∧ ∃ sec ∈ table,
              ∃ descriptor ∈ sec.descriptors, descriptor.NamesCaPid s.tables.caidFilter pid :=
  ⟨fun _ _ htable hnew hof hall ↦ exists_patCollected htable hnew hof hall,
    fun _ _ htable hnew hof hall ↦ exists_catCollected htable hnew hof hall⟩

/-- A PAT in two sections. -/
def firstPatSection : PatSection where
  header := ⟨0, 176, 13, 0, 1, 195, 0, 1⟩
  body := [0, 2, 224, 200]
  crc0 := 148
  crc1 := 168
  crc2 := 160
  crc3 := 166
  syntax_bit := by decide
  length_eq := by decide
  length_le := by decide
  crc_eq := by decide +kernel
  entries := [⟨0, 2, 224, 200⟩]
  tableId_eq := rfl
  body_eq := rfl

def secondPatSection : PatSection where
  header := ⟨0, 176, 13, 0, 1, 195, 1, 1⟩
  body := [0, 1, 224, 100]
  crc0 := 73
  crc1 := 202
  crc2 := 149
  crc3 := 61
  syntax_bit := by decide
  length_eq := by decide
  length_le := by decide
  crc_eq := by decide +kernel
  entries := [⟨0, 1, 224, 100⟩]
  tableId_eq := rfl
  body_eq := rfl

/-- A CAT with EMM pid 500. -/
def catSection : CatSection where
  header := ⟨1, 176, 15, 255, 255, 195, 0, 0⟩
  body := [9, 4, 24, 51, 225, 244]
  crc0 := 162
  crc1 := 97
  crc2 := 48
  crc3 := 91
  syntax_bit := by decide
  length_eq := by decide
  length_le := by decide
  crc_eq := by decide +kernel
  descriptors := [scramblingDescriptor]
  tableId_eq := rfl
  body_eq := rfl

theorem tables_collected_twoSections :
    (∃ next, handleAll psiPidPat
          ([secondPatSection, firstPatSection, secondPatSection].map (·.bytes))
          (construct true true ∅) = some next ∧ {100, 200} ⊆ next.tables.patPmtPids) ∧
      ∃ next, handleAll psiPidCat ([catSection, catSection].map (·.bytes))
        (construct true true ∅) = some next ∧ 500 ∈ next.tables.emmPids := by
  obtain ⟨hpat, hcat⟩ := tables_collected (construct true true ∅) 1
  have hpattable : Numbered 1 ([firstPatSection, secondPatSection].map (·.toSection)) :=
    ⟨by simp, by simp [Section.Current, firstPatSection, secondPatSection],
      by simp [Section.version, versionOf, firstPatSection, secondPatSection], rfl⟩
  have hcattable : Numbered 1 ([catSection].map (·.toSection)) :=
    ⟨by simp, by simp [Section.Current, catSection],
      by simp [Section.version, versionOf, catSection], rfl⟩
  have hpatnew : (construct true true ∅).tables.patVersion ≠ some 1 := by
    simp [construct, reset, clearState]
  have hcatnew : (construct true true ∅).tables.catVersion ≠ some 1 := by
    simp [construct, reset, clearState]
  obtain ⟨next, hnext, hpids⟩ := hpat [firstPatSection, secondPatSection]
    [secondPatSection, firstPatSection, secondPatSection] hpattable hpatnew (by simp) (by simp)
  obtain ⟨next', hnext', hpids'⟩ := hcat [catSection] [catSection, catSection] hcattable hcatnew
    (by simp) (by simp)
  refine ⟨⟨next, hnext, ?_⟩, next', hnext', ?_⟩
  · rw [Finset.insert_subset_iff, Finset.singleton_subset_iff]
    exact ⟨(hpids 100).mpr ⟨by unfold Usable; decide, secondPatSection, by simp, _,
        List.mem_cons_self, by decide, rfl⟩,
      (hpids 200).mpr ⟨by unfold Usable; decide, firstPatSection, by simp, _,
        List.mem_cons_self, by decide, rfl⟩⟩
  · exact (hpids' 500).mpr ⟨by unfold Usable; decide, catSection, by simp, _, List.mem_cons_self,
      rfl, 24, 51, 225, 244, [], rfl, by simp [construct, reset, clearState], rfl⟩

/-! ### From packets, among other sections -/

/-- The sections on one pid. -/
def sectionsOn (pid : ℕ) (received : List (ℕ × List UInt8)) : List (List UInt8) :=
  received.filterMap fun x ↦ if x.1 = pid then some x.2 else none

theorem sectionsOn_append (pid : ℕ) (front back : List (ℕ × List UInt8)) :
    sectionsOn pid (front ++ back) = sectionsOn pid front ++ sectionsOn pid back :=
  List.filterMap_append

theorem Numbered.sectionInvariant {P : List (List UInt8) → Tables → Prop} {tableId : ℕ}
    {table : List Section}
    (hstep : ∀ received t sec t', P received t → OfVersion tableId version sec →
      (∀ other ∈ received, byteAt other 6 = byteAt sec 6 → other = sec) →
        Tables.handleSection pid sec t = some t' → P (received ++ [sec]) t')
    (hother : ∀ received t other sec t', P received t → other ≠ pid →
      Tables.handleSection other sec t = some t' → P received t')
    (hclean : ∀ received t, P received t → P received { t with dirty := false })
    (htable : Numbered version table) (hid : ∀ sec ∈ table, sec.header.tableId.toNat = tableId) :
    SectionInvariant (Event.From {x | x.1 = pid → ∃ sec ∈ table, sec.bytes = x.2})
      (fun received s ↦ (∀ sec ∈ sectionsOn pid received, ∃ x ∈ table, x.bytes = sec) ∧
        P (sectionsOn pid received) s.tables) where
  frame _ _ _ _ h := h
  handleSection received s place sec next h _ hsec hnext := by
    obtain ⟨tables, htables, rfl⟩ := exists_tables_of_handleSection hnext
    rw [sectionsOn_append]
    by_cases hplace : place = pid
    · subst hplace
      have hone : sectionsOn place [(place, sec)] = [sec] := by simp [sectionsOn]
      obtain ⟨x, hx, rfl⟩ := hsec rfl
      rw [hone]
      refine ⟨List.forall_mem_append.mpr ⟨h.1, List.forall_mem_singleton.mpr ⟨x, hx, rfl⟩⟩,
        hstep _ _ _ _ h.2 (htable.ofVersion hx (hid x hx)) ?_ htables⟩
      intro other hmem hnumber
      obtain ⟨y, hy, rfl⟩ := h.1 other hmem
      exact htable.eq_of_number_eq hx hy hnumber
    · have hnone : sectionsOn pid [(place, sec)] = [] := by simp [sectionsOn, hplace]
      rw [hnone, List.append_nil]
      exact ⟨h.1, hother _ _ _ _ _ h.2 hplace htables⟩
  settle received s h := by
    rw [tables_settle]
    exact ⟨h.1, hclean _ _ h.2⟩

theorem Numbered.receives {P : List (List UInt8) → Tables → Prop} {table : List Section}
    {tableId : ℕ} {s next : SatipPSI} {received : List (ℕ × List UInt8)}
    (hstep : ∀ received t sec t', P received t → OfVersion tableId version sec →
      (∀ other ∈ received, byteAt other 6 = byteAt sec 6 → other = sec) →
        Tables.handleSection pid sec t = some t' → P (received ++ [sec]) t')
    (hother : ∀ received t other sec t', P received t → other ≠ pid →
      Tables.handleSection other sec t = some t' → P received t')
    (hclean : ∀ received t, P received t → P received { t with dirty := false })
    (htable : Numbered version table) (hid : ∀ sec ∈ table, sec.header.tableId.toNat = tableId)
    (hs : Reachable s) (hcovers : Covers table (sectionsOn pid received)) (hstart : P [] s.tables)
    (h : Receives s received next) : P (sectionsOn pid received) next.tables := by
  have hof : ∀ x ∈ received, x.1 = pid → ∃ sec ∈ table, sec.bytes = x.2 := by
    intro x hx hpid
    exact hcovers.exists_of_mem x.2 (List.mem_filterMap.mpr ⟨x, hx, if_pos hpid⟩)
  exact (h.invariant (htable.sectionInvariant hstep hother hclean hid) hs (h.from hs hof)
    ⟨by simp [sectionsOn], hstart⟩).2

/-- The packets of a transponder bring every section of a new PAT, and whatever else. -/
theorem Receives.mem_patPmtPids_iff {table : List PatSection} {s next : SatipPSI}
    {received : List (ℕ × List UInt8)} (h : Receives s received next) (hs : Reachable s)
    (htable : Numbered version (table.map (·.toSection)))
    (hnew : s.tables.patVersion ≠ some version)
    (hcovers : Covers (table.map (·.toSection)) (sectionsOn psiPidPat received)) :
    pid ∈ next.tables.patPmtPids ↔ Usable pid ∧
      ∃ sec ∈ table, ∃ entry ∈ sec.entries, entry.programNumber ≠ 0 ∧ entry.pid = pid := by
  have hcollected : next.tables.PatCollected version (sectionsOn psiPidPat received) :=
    htable.receives (P := Tables.PatCollected version)
      (fun _ _ _ _ h ↦ Tables.PatCollected.handleSection h)
      (fun _ _ _ _ _ h ↦ Tables.PatCollected.of_ne h) (fun _ _ h ↦ h) tableId_of_mem_pat hs hcovers
      hnew h
  exact hcollected.mem_patPmtPids_iff htable hcovers

/-- The same for the CAT. -/
theorem Receives.mem_emmPids_iff {table : List CatSection} {s next : SatipPSI}
    {received : List (ℕ × List UInt8)} (h : Receives s received next) (hs : Reachable s)
    (htable : Numbered version (table.map (·.toSection)))
    (hnew : s.tables.catVersion ≠ some version)
    (hcovers : Covers (table.map (·.toSection)) (sectionsOn psiPidCat received)) :
    pid ∈ next.tables.emmPids ↔ Usable pid ∧ ∃ sec ∈ table, ∃ descriptor ∈ sec.descriptors,
      descriptor.NamesCaPid next.tables.caidFilter pid := by
  have hcollected : next.tables.CatCollected version (sectionsOn psiPidCat received) :=
    htable.receives (P := Tables.CatCollected version)
      (fun _ _ _ _ h ↦ Tables.CatCollected.handleSection h)
      (fun _ _ _ _ _ h ↦ Tables.CatCollected.of_ne h) (fun _ _ h ↦ h) tableId_of_mem_cat hs hcovers
      hnew h
  exact hcollected.mem_emmPids_iff htable hcovers

end SatipClient.PSI
