import SatipClient.PSI.Delivery
import SatipClient.PSI.Representation
import SatipClient.PSI.Retune

/-!
# Programs that share a PMT pid

Several programs of a PAT may name the same PMT pid, and each has a PMT section there.  `parsePMT`
keeps one entry for each pid, so that the sections of the programs replace each other, unless they
have the same version, in which case the later one is skipped.  So the derived set has what all of
them call for, in whatever order the sections arrive, exactly when each alone calls for it
(`servesAll_iff`): in one direction by an invariant of the sections received (`Hearing`), in the
other by sending them in an order that does harm.
-/

namespace SatipClient.PSI

open Checked

namespace Tables

/-! ## What the programs call for -/

/-- What a PMT section says of its program. -/
def infoIn (caidFilter : Finset ℕ) (sec : List UInt8) : PmtInfo where
  version := (byteAt sec 5).map versionOf
  ecmPids := ((serviceIn caidFilter sec).map Prod.fst).getD ∅
  esPids := ((serviceIn caidFilter sec).map Prod.snd).getD ∅

/-- What the programs with these PMT sections call for together. -/
def neededPids (t : Tables) (pid : ℕ) (sections : Finset (List UInt8)) : Finset ℕ :=
  sections.biUnion fun sec ↦ calledFor t.joinedPids pid (infoIn t.caidFilter sec)

/-- The derived set when these pids are called for besides those that are wanted already. -/
def caPidsWith (t : Tables) (pids : Finset ℕ) : Finset ℕ := truncatePids (t.wantedPids ∪ pids)

variable {t t' : Tables} {pid : ℕ} {sec : List UInt8} {sections : Finset (List UInt8)}

theorem caPidsWith_empty (t : Tables) : t.caPidsWith ∅ = t.caPids := by
  rw [caPidsWith, Finset.union_empty, caPids]

/-- Fewer pids give the whole set as soon as they give what the limit leaves of the others. -/
theorem caPidsWith_eq_of_subset {pids all : Finset ℕ} (h : pids ⊆ all)
    (hkept : all ∩ t.caPidsWith all ⊆ t.caPidsWith pids) :
    t.caPidsWith pids = t.caPidsWith all := by
  unfold caPidsWith at hkept ⊢
  simp only [truncatePids_eq_smallest] at hkept ⊢
  apply BoundedSet.smallest_eq_of_subset (Finset.union_subset_union_right h)
  intro listed hlisted
  rcases Finset.mem_union.mp (BoundedSet.smallest_subset _ _ hlisted) with hwanted | hall
  · exact Finset.mem_union_left _ hwanted
  · exact BoundedSet.smallest_subset _ _ (hkept (Finset.mem_inter.mpr ⟨hall, hlisted⟩))

/-- What lies between two sets with the same outcome has this outcome, too. -/
theorem caPidsWith_eq_of_between {pids all : Finset ℕ} (h : pids ⊆ all)
    (hsame : t.caPids = t.caPidsWith all) : t.caPidsWith pids = t.caPidsWith all := by
  rw [← caPidsWith_empty] at hsame
  unfold caPidsWith at hsame ⊢
  simp only [truncatePids_eq_smallest] at hsame ⊢
  apply BoundedSet.smallest_eq_of_subset (Finset.union_subset_union_right h)
  rw [← hsame, Finset.union_empty]
  exact (BoundedSet.smallest_subset _ _).trans Finset.subset_union_left

theorem calledFor_subset_neededPids (t : Tables) (pid : ℕ) (hsec : sec ∈ sections) :
    calledFor t.joinedPids pid (infoIn t.caidFilter sec) ⊆ t.neededPids pid sections :=
  Finset.subset_biUnion_of_mem (fun sec ↦ calledFor t.joinedPids pid (infoIn t.caidFilter sec)) hsec

/-! ## Tables that differ in one service -/

/-- At most what is known of the service on this pid is different. -/
structure SameBut (pid : ℕ) (t t' : Tables) : Prop where
  emmEnabled : t'.emmEnabled = t.emmEnabled
  caidFilter : t'.caidFilter = t.caidFilter
  joinedPids : t'.joinedPids = t.joinedPids
  patPmtPids : t'.patPmtPids = t.patPmtPids
  emmPids : t'.emmPids = t.emmPids
  pmt : ∀ other, other ≠ pid → t'.pmt other = t.pmt other

theorem SameBut.refl (pid : ℕ) (t : Tables) : SameBut pid t t :=
  ⟨rfl, rfl, rfl, rfl, rfl, fun _ _ ↦ rfl⟩

theorem SameBut.trans {mid : Tables} (hfront : SameBut pid t mid) (hback : SameBut pid mid t') :
    SameBut pid t t' where
  emmEnabled := hback.emmEnabled.trans hfront.emmEnabled
  caidFilter := hback.caidFilter.trans hfront.caidFilter
  joinedPids := hback.joinedPids.trans hfront.joinedPids
  patPmtPids := hback.patPmtPids.trans hfront.patPmtPids
  emmPids := hback.emmPids.trans hfront.emmPids
  pmt other hother := (hback.pmt other hother).trans (hfront.pmt other hother)

theorem SameBut.infoOf (h : SameBut pid t t') {other : ℕ} (hother : other ≠ pid) :
    t'.infoOf other = t.infoOf other := by
  rw [Tables.infoOf, Tables.infoOf, h.pmt other hother]

/-- With a service on a pid of which nothing was known, the set is the one with what this service
calls for. -/
theorem SameBut.caPids_eq (h : SameBut pid t t') (hlisted : pid ∈ t.patPmtPids)
    (hunknown : t.pmt pid = none) :
    t'.caPids = t.caPidsWith (calledFor t.joinedPids pid (t'.infoOf pid)) := by
  have hsilent : calledFor t.joinedPids pid (t.infoOf pid) = ∅ := by
    rw [Tables.infoOf, hunknown, calledFor, if_neg (by simp)]
  have hwanted : t'.wantedPids =
      t.wantedPids ∪ calledFor t.joinedPids pid (t'.infoOf pid) := by
    ext listed
    rw [Finset.mem_union, mem_wantedPids_iff, mem_wantedPids_iff, h.emmEnabled, h.emmPids,
      h.patPmtPids, h.joinedPids, or_assoc]
    apply or_congr_right
    constructor
    · rintro ⟨other, hother, hcalled⟩
      by_cases hsame : other = pid
      · exact Or.inr (hsame ▸ hcalled)
      · rw [h.infoOf hsame] at hcalled
        exact Or.inl ⟨other, hother, hcalled⟩
    · rintro (⟨other, hother, hcalled⟩ | hcalled)
      · have hsame : other ≠ pid := by
          rintro rfl
          simp [hsilent] at hcalled
        exact ⟨other, hother, by rwa [h.infoOf hsame]⟩
      · exact ⟨pid, hlisted, hcalled⟩
  rw [caPids, hwanted, caPidsWith]

/-! ## One section of a program -/

/-- A PMT section that `parsePMT` can read. -/
structure IsPmtSection (caidFilter : Finset ℕ) (sec : List UInt8) : Prop where
  isSection : IsSection sec
  isTable : IsTable sec 0x02
  readable : (serviceIn caidFilter sec).isSome = true

instance (caidFilter : Finset ℕ) (sec : List UInt8) : Decidable (IsPmtSection caidFilter sec) :=
  decidable_of_iff (IsSection sec ∧ IsTable sec 0x02 ∧ (serviceIn caidFilter sec).isSome = true)
    ⟨fun h ↦ ⟨h.1, h.2.1, h.2.2⟩, fun h ↦ ⟨h.1, h.2, h.3⟩⟩

theorem IsPmtSection.sendable {caidFilter : Finset ℕ} (h : IsPmtSection caidFilter sec) :
    Sendable sec := by
  refine ⟨h.isSection, fun hhead ↦ ?_⟩
  have hid := h.isTable.tableId_eq
  rw [byteAt, ← List.head?_eq_getElem?, hhead] at hid
  exact absurd hid (by decide)

/-- A section of the version stored is skipped. -/
theorem handleSection_of_version_eq (hpat : pid ≠ psiPidPat) (hcat : pid ≠ psiPidCat)
    (hsec : IsPmtSection t.caidFilter sec)
    (hversion : (t.infoOf pid).version = (infoIn t.caidFilter sec).version)
    (h : handleSection pid sec t = some t') :
    SameBut pid t t' ∧ t'.infoOf pid = t.infoOf pid ∧ t'.dirty = t.dirty := by
  have htable : IsTable sec (tableOf pid) := by
    rw [tableOf, if_neg hpat, if_neg hcat]
    exact hsec.isTable
  obtain ⟨flags, hflags, -⟩ := hsec.isTable.current_next
  rw [handleSection_of_tableOf htable, if_neg hpat, if_neg hcat] at h
  have hnone : t.countSection.pmtStored pid sec = none := by
    apply pmtStored_eq_none hflags
    left
    rw [infoIn, hflags] at hversion
    exact hversion
  rcases parsePMT_cases h with ⟨-, rfl⟩ | ⟨version, ecmPids, esPids, hstored, -⟩
  · exact ⟨⟨rfl, rfl, rfl, rfl, rfl, fun other hother ↦ Function.update_of_ne hother _ _⟩,
      infoOf_of_pmt (Function.update_self ..), rfl⟩
  · rw [hnone] at hstored
    cases hstored

/-- A section of another version replaces what is stored. -/
theorem handleSection_of_version_ne (hpat : pid ≠ psiPidPat) (hcat : pid ≠ psiPidCat)
    (hsec : IsPmtSection t.caidFilter sec)
    (hversion : (t.infoOf pid).version ≠ (infoIn t.caidFilter sec).version)
    (h : handleSection pid sec t = some t') :
    SameBut pid t t' ∧ t'.infoOf pid = infoIn t.caidFilter sec ∧
      t'.dirty = (t.dirty ||
        decide ((t.infoOf pid).ecmPids ≠ (infoIn t.caidFilter sec).ecmPids)) := by
  have htable : IsTable sec (tableOf pid) := by
    rw [tableOf, if_neg hpat, if_neg hcat]
    exact hsec.isTable
  obtain ⟨flags, hflags, -⟩ := hsec.isTable.current_next
  obtain ⟨contents, hcontents⟩ := Option.isSome_iff_exists.mp hsec.readable
  rw [handleSection_of_tableOf htable, if_neg hpat, if_neg hcat] at h
  rw [infoIn, hflags] at hversion
  rcases parsePMT_cases h with ⟨hnone, -⟩ | ⟨version, ecmPids, esPids, hstored, rfl⟩
  · exact absurd
      (version_of_pmtStored_eq_none (t := t.countSection) hflags hcontents hnone) hversion
  · obtain ⟨flags', -, -, hflags', -, -, rfl, -⟩ := reads_of_pmtStored hstored
    have hread : serviceIn t.caidFilter sec = some (ecmPids, esPids) :=
      serviceIn_of_pmtStored hstored
    have hinfo : infoIn t.caidFilter sec = ⟨some (versionOf flags'), ecmPids, esPids⟩ := by
      rw [infoIn, hread, hflags']
      rfl
    rw [hinfo]
    exact ⟨⟨rfl, rfl, rfl, rfl, rfl, fun other hother ↦ Function.update_of_ne hother _ _⟩,
      infoOf_of_pmt (Function.update_self ..), rfl⟩

/-! ## Sections one at a time -/

/-- What is known of the service, and the derived set, once a section was received on its own. -/
def hear (t : Tables) (pid : ℕ) (known : PmtInfo × Finset ℕ) (info : PmtInfo) :
    PmtInfo × Finset ℕ :=
  if known.1.version = info.version then known
  else (info, if known.1.ecmPids ≠ info.ecmPids then t.caPidsWith (calledFor t.joinedPids pid info)
    else known.2)

variable {known : PmtInfo × Finset ℕ} {info other : PmtInfo} {infos : List PmtInfo}

theorem version_hear : (hear t pid known info).1.version = info.version := by
  unfold hear
  split
  · assumption
  · rfl

theorem hear_of_version_ne (h : known.1.version ≠ info.version) :
    hear t pid known info = (info, if known.1.ecmPids ≠ info.ecmPids then
      t.caPidsWith (calledFor t.joinedPids pid info) else known.2) :=
  if_neg h

/-- Sections of the version stored are skipped. -/
theorem foldl_hear_of_version (t : Tables) (pid : ℕ) (known : PmtInfo × Finset ℕ)
    (infos : List PmtInfo) (h : ∀ info ∈ infos, known.1.version = info.version) :
    infos.foldl (hear t pid) known = known := by
  induction infos with
  | nil => rfl
  | cons info infos ih =>
    obtain ⟨hfirst, hrest⟩ := List.forall_mem_cons.mp h
    rw [List.foldl_cons, hear, if_pos hfirst, ih hrest]

/-- Sections that confirm the ECM pids leave the derived set alone. -/
theorem foldl_hear_of_ecmPids (t : Tables) (pid : ℕ) (known : PmtInfo × Finset ℕ)
    (infos : List PmtInfo) (h : ∀ info ∈ infos, info.ecmPids = known.1.ecmPids) :
    (infos.foldl (hear t pid) known).1.ecmPids = known.1.ecmPids ∧
      (infos.foldl (hear t pid) known).2 = known.2 := by
  induction infos generalizing known with
  | nil => exact ⟨rfl, rfl⟩
  | cons info infos ih =>
    obtain ⟨hfirst, hrest⟩ := List.forall_mem_cons.mp h
    have hstep : (hear t pid known info).1.ecmPids = known.1.ecmPids ∧
        (hear t pid known info).2 = known.2 := by
      unfold hear
      split
      · exact ⟨rfl, rfl⟩
      · exact ⟨hfirst, if_neg (by simp [hfirst])⟩
    rw [List.foldl_cons, ← hstep.1, ← hstep.2]
    exact ih _ fun info hinfo ↦ (hrest info hinfo).trans hstep.1.symm

/-- Between two sections of one program another one makes sure that the second is read. -/
theorem hear_hear_hear (hversion : other.version ≠ info.version)
    (hecm : other.ecmPids ≠ info.ecmPids) :
    (hear t pid (hear t pid (hear t pid known info) other) info).2 =
      t.caPidsWith (calledFor t.joinedPids pid info) := by
  have hother : (hear t pid (hear t pid known info) other).1 = other := by
    rw [hear_of_version_ne (by rw [version_hear]; exact hversion.symm)]
  rw [hear_of_version_ne (by rwa [hother]), hother, if_pos hecm]

/-- What is known once these sections were received in this order, each on its own. -/
def heard (t : Tables) (pid : ℕ) (order : List (List UInt8)) : PmtInfo × Finset ℕ :=
  (order.map (infoIn t.caidFilter)).foldl (hear t pid) ({}, t.caPids)

theorem heard_append (order more : List (List UInt8)) :
    heard t pid (order ++ more) =
      (more.map (infoIn t.caidFilter)).foldl (hear t pid) (heard t pid order) := by
  rw [heard, List.map_append, List.foldl_append, heard]

/-! ## When sharing does no harm -/

/-- A program with ECM pids whose version no program without ECM pids has. -/
def Notices (t : Tables) (sections : Finset (List UInt8)) (sec : List UInt8) : Prop :=
  (infoIn t.caidFilter sec).ecmPids ≠ ∅ ∧ ∀ other ∈ sections,
    (infoIn t.caidFilter other).version = (infoIn t.caidFilter sec).version →
      (infoIn t.caidFilter other).ecmPids ≠ ∅

/-- Each program alone makes for the same derived set as all of them together, and unless the set
stays as it is, there is a program which `parsePMT` cannot fail to notice. -/
structure Interchangeable (t : Tables) (pid : ℕ) (sections : Finset (List UInt8)) : Prop where
  each : ∀ sec ∈ sections, t.caPidsWith (calledFor t.joinedPids pid (infoIn t.caidFilter sec)) =
    t.caPidsWith (t.neededPids pid sections)
  noticed : t.caPids = t.caPidsWith (t.neededPids pid sections) ∨
    ∃ sec ∈ sections, t.Notices sections sec

instance (t : Tables) (sections : Finset (List UInt8)) (sec : List UInt8) :
    Decidable (t.Notices sections sec) :=
  inferInstanceAs (Decidable (_ ∧ ∀ other ∈ sections, _ → _))

instance (t : Tables) (pid : ℕ) (sections : Finset (List UInt8)) :
    Decidable (t.Interchangeable pid sections) :=
  decidable_of_iff ((∀ sec ∈ sections,
      t.caPidsWith (calledFor t.joinedPids pid (infoIn t.caidFilter sec)) =
        t.caPidsWith (t.neededPids pid sections)) ∧
      (t.caPids = t.caPidsWith (t.neededPids pid sections) ∨
        ∃ sec ∈ sections, t.Notices sections sec))
    ⟨fun h ↦ ⟨h.1, h.2⟩, fun h ↦ ⟨h.each, h.noticed⟩⟩

end Tables

open Tables (SameBut IsPmtSection infoIn calledFor hear heard)

/-- The PAT lists the PMT pid, and nothing was received on it so far. -/
structure Unheard (s : SatipPSI) (pid : ℕ) : Prop where
  listed : pid ∈ s.tables.patPmtPids
  ne_cat : pid ≠ psiPidCat
  unknown : s.tables.pmt pid = none
  idle : pendingOf s pid = []
  derivedPids : s.derivedPids = s.tables.caPids

/-- What was received are sections of these programs on the pid. -/
def OnlySections (pid : ℕ) (sections : Finset (List UInt8)) (received : List (ℕ × List UInt8)) :
    Prop := ∀ x ∈ received, x.1 = pid ∧ x.2 ∈ sections

/-- Whatever the order in which the sections of these programs are received on the pid: once each
was, the derived set has what they call for, as far as the limit leaves it, and receiving them
again does not change it. -/
def ServesAll (s : SatipPSI) (pid : ℕ) (sections : Finset (List UInt8)) : Prop :=
  ∀ received next, Receives s received next → OnlySections pid sections received →
    (∀ sec ∈ sections, (pid, sec) ∈ received) →
      s.tables.neededPids pid sections ∩
          s.tables.caPidsWith (s.tables.neededPids pid sections) ⊆ next.derivedPids ∧
        ∀ again last, Receives next again last → OnlySections pid sections again →
          last.derivedPids = next.derivedPids

/-! ## Any order -/

/-- While the sections arrive, the service is known from one of them, and the derived set belongs
to all the programs, unless it is about to change or no program was received that `parsePMT`
cannot fail to notice. -/
structure Hearing (t : Tables) (pid : ℕ) (sections : Finset (List UInt8))
    (received : List (ℕ × List UInt8)) (s : SatipPSI) : Prop where
  sameBut : SameBut pid t s.tables
  known : (s.tables.infoOf pid = {} ∧ s.tables.dirty = false) ∨
    ∃ sec ∈ sections, s.tables.infoOf pid = infoIn t.caidFilter sec
  derivedPids : s.tables.dirty = true ∨
    s.derivedPids = t.caPidsWith (t.neededPids pid sections) ∨
    (s.derivedPids = t.caPids ∧ (s.tables.infoOf pid).ecmPids = ∅ ∧
      ∀ sec ∈ sections, t.Notices sections sec → (pid, sec) ∉ received)

variable {s next : SatipPSI} {t : Tables} {pid : ℕ} {sec : List UInt8}
  {sections : Finset (List UInt8)}

theorem version_infoIn_ne_none {caidFilter : Finset ℕ} (h : IsPmtSection caidFilter sec) :
    (infoIn caidFilter sec).version ≠ none := by
  obtain ⟨flags, hflags, -⟩ := h.isTable.current_next
  rw [infoIn, hflags]
  exact Option.some_ne_none _

theorem Hearing.handleSection {received : List (ℕ × List UInt8)}
    (h : Hearing t pid sections received s) (hpat : pid ≠ psiPidPat) (hcat : pid ≠ psiPidCat)
    (hsections : ∀ sec ∈ sections, IsPmtSection t.caidFilter sec) (hsec : sec ∈ sections)
    (hnext : handleSection pid sec s = some next) :
    Hearing t pid sections (received ++ [(pid, sec)]) next := by
  obtain ⟨tables, htables, rfl⟩ := exists_tables_of_handleSection hnext
  have hfilter : s.tables.caidFilter = t.caidFilter := h.sameBut.caidFilter
  have hread : IsPmtSection s.tables.caidFilter sec := hfilter ▸ hsections sec hsec
  have hstill : ¬ t.Notices sections sec →
      (∀ other ∈ sections, t.Notices sections other → (pid, other) ∉ received) →
      ∀ other ∈ sections, t.Notices sections other → (pid, other) ∉ received ++ [(pid, sec)] := by
    intro hblind hbefore other hother hnotices hmem
    rcases List.mem_append.mp hmem with hearlier | hlast
    · exact hbefore other hother hnotices hearlier
    · obtain rfl := (Prod.mk.inj (List.mem_singleton.mp hlast)).2
      exact hblind hnotices
  by_cases hversion : (s.tables.infoOf pid).version = (infoIn s.tables.caidFilter sec).version
  · obtain ⟨hsame, hinfo, hdirty⟩ :=
      Tables.handleSection_of_version_eq hpat hcat hread hversion htables
    have hknown : ∃ other ∈ sections, s.tables.infoOf pid = infoIn t.caidFilter other := by
      rcases h.known with ⟨hnothing, -⟩ | hknown
      · rw [hnothing] at hversion
        exact absurd hversion.symm (version_infoIn_ne_none hread)
      · exact hknown
    refine ⟨h.sameBut.trans hsame, Or.inr (by rwa [← hinfo] at hknown), ?_⟩
    dsimp only
    rw [hdirty, hinfo]
    refine h.derivedPids.imp_right (Or.imp_right fun hbase ↦ ?_)
    -- The program stored has no ECM pids, and this one has its version.
    obtain ⟨hderived, hecm, hbefore⟩ := hbase
    obtain ⟨other, hother, hstored⟩ := hknown
    refine ⟨hderived, hecm, hstill (fun hnotices ↦ ?_) hbefore⟩
    rw [hstored, hfilter] at hversion
    rw [hstored] at hecm
    exact hnotices.2 other hother hversion hecm
  · obtain ⟨hsame, hinfo, hdirty⟩ :=
      Tables.handleSection_of_version_ne hpat hcat hread hversion htables
    rw [hfilter] at hinfo hdirty
    refine ⟨h.sameBut.trans hsame, Or.inr ⟨sec, hsec, hinfo⟩, ?_⟩
    dsimp only
    rw [hdirty, hinfo]
    by_cases hecm : (s.tables.infoOf pid).ecmPids = (infoIn t.caidFilter sec).ecmPids
    · rw [decide_eq_false (not_not.mpr hecm), Bool.or_false]
      refine h.derivedPids.imp_right (Or.imp_right fun hbase ↦ ?_)
      obtain ⟨hderived, hnone, hbefore⟩ := hbase
      rw [hecm] at hnone
      exact ⟨hderived, hnone, hstill (fun hnotices ↦ hnotices.1 hnone) hbefore⟩
    · left
      simp [hecm]

theorem sameBut_settle (h : SameBut pid t s.tables) : SameBut pid t (settle s).tables := by
  rw [tables_settle]
  exact ⟨h.emmEnabled, h.caidFilter, h.joinedPids, h.patPmtPids, h.emmPids, h.pmt⟩

theorem hearing_invariant (hlisted : pid ∈ t.patPmtPids) (hpat : pid ≠ psiPidPat)
    (hcat : pid ≠ psiPidCat) (hunknown : t.pmt pid = none)
    (hsections : ∀ sec ∈ sections, IsPmtSection t.caidFilter sec)
    (heach : ∀ sec ∈ sections, t.caPidsWith (calledFor t.joinedPids pid (infoIn t.caidFilter sec)) =
      t.caPidsWith (t.neededPids pid sections)) :
    SectionInvariant (Event.From {x | x.1 = pid ∧ x.2 ∈ sections}) (Hearing t pid sections) where
  frame _ _ _ _ h := ⟨h.sameBut, h.known, h.derivedPids⟩
  handleSection received s pid' sec next h _ hfrom hnext := by
    obtain ⟨rfl, hsec⟩ : pid' = pid ∧ sec ∈ sections := hfrom
    exact h.handleSection hpat hcat hsections hsec hnext
  settle received s h := by
    have hinfo : (settle s).tables.infoOf pid = s.tables.infoOf pid := by
      rw [tables_settle]
      rfl
    refine ⟨sameBut_settle h.sameBut, ?_, Or.inr ?_⟩
    · rw [hinfo, tables_settle]
      exact h.known.imp_left fun hnothing ↦ ⟨hnothing.1, rfl⟩
    · rw [derivedPids_settle, hinfo]
      split
      case isTrue hdirty =>
        left
        rcases h.known with ⟨-, hclean⟩ | ⟨sec, hsec, hstored⟩
        · rw [hclean] at hdirty
          cases hdirty
        · rw [h.sameBut.caPids_eq hlisted hunknown, hstored]
          exact heach sec hsec
      case isFalse hclean => exact h.derivedPids.resolve_left hclean

/-- The pids of a PAT are those of PMTs. -/
theorem Unheard.usable (h : Unheard s pid) (hs : Reachable s) : Usable pid :=
  hs.settled.representation.usablePmt pid h.listed

theorem Unheard.infoOf (h : Unheard s pid) : s.tables.infoOf pid = {} := by
  rw [Tables.infoOf, h.unknown]
  rfl

/-- Interchangeable programs are served in any order. -/
theorem servesAll_of_interchangeable (hs : Reachable s) (h : Unheard s pid)
    (hsections : ∀ sec ∈ sections, IsPmtSection s.tables.caidFilter sec)
    (hinterchangeable : s.tables.Interchangeable pid sections) : ServesAll s pid sections := by
  have hInv := hearing_invariant h.listed (h.usable hs).1.ne' h.ne_cat h.unknown hsections
    hinterchangeable.each
  have hstart : Hearing s.tables pid sections [] s :=
    ⟨SameBut.refl pid _, Or.inl ⟨h.infoOf, hs.not_dirty⟩,
      Or.inr (Or.inr ⟨h.derivedPids, by rw [h.infoOf], by simp⟩)⟩
  have hserved : ∀ received next, Receives s received next → OnlySections pid sections received →
      (∀ sec ∈ sections, (pid, sec) ∈ received) →
        next.derivedPids = s.tables.caPidsWith (s.tables.neededPids pid sections) := by
    intro received next hreceives honly hall
    have hhearing := hreceives.invariant hInv hs (hreceives.from hs honly) hstart
    have hclean := (hreceives.reachable hs).not_dirty
    rcases hhearing.derivedPids with hdirty | hderived | ⟨hderived, -, hunnoticed⟩
    · rw [hclean] at hdirty
      cases hdirty
    · exact hderived
    · rcases hinterchangeable.noticed with hsame | ⟨sec, hsec, hnotices⟩
      · rw [hderived, hsame]
      · exact absurd (hall sec hsec) (hunnoticed sec hsec hnotices)
  intro received next hreceives honly hall
  have hderived := hserved received next hreceives honly hall
  refine ⟨by rw [hderived]; exact Finset.inter_subset_right, fun again last hagain hsame ↦ ?_⟩
  rw [hderived]
  apply hserved (received ++ again) last (hreceives.trans hagain)
  · exact fun x hx ↦ (List.mem_append.mp hx).elim (honly x) (hsame x)
  · exact fun sec hsec ↦ List.mem_append_left _ (hall sec hsec)

/-! ## Orders that do harm -/

/-- What is known of the service on the pid, and the derived set. -/
def knownOf (s : SatipPSI) (pid : ℕ) : PmtInfo × Finset ℕ := (s.tables.infoOf pid, s.derivedPids)

/-- A section that is delivered is heard. -/
theorem Delivered.heard (h : Delivered s pid sec next) (hsame : SameBut pid t s.tables)
    (hlisted : pid ∈ t.patPmtPids) (hunknown : t.pmt pid = none) (hpat : pid ≠ psiPidPat)
    (hcat : pid ≠ psiPidCat) (hclean : s.tables.dirty = false)
    (hsec : IsPmtSection t.caidFilter sec) :
    SameBut pid t next.tables ∧
      knownOf next pid = hear t pid (knownOf s pid) (infoIn t.caidFilter sec) := by
  obtain ⟨-, tables, assembler, tsPackets, htables, rfl⟩ := h
  have hfilter : s.tables.caidFilter = t.caidFilter := hsame.caidFilter
  have hread : IsPmtSection s.tables.caidFilter sec := hfilter ▸ hsec
  have hstep : SameBut pid s.tables tables ∧ (tables.infoOf pid,
      if tables.dirty then tables.caPids else s.derivedPids) =
        hear t pid (knownOf s pid) (infoIn t.caidFilter sec) := by
    by_cases hversion : (s.tables.infoOf pid).version = (infoIn s.tables.caidFilter sec).version
    · obtain ⟨hnext, hinfo, hdirty⟩ :=
        Tables.handleSection_of_version_eq hpat hcat hread hversion htables
      rw [hfilter] at hversion
      refine ⟨hnext, ?_⟩
      rw [hear, knownOf, if_pos hversion, hinfo, hdirty, hclean]
      rfl
    · obtain ⟨hnext, hinfo, hdirty⟩ :=
        Tables.handleSection_of_version_ne hpat hcat hread hversion htables
      rw [hfilter] at hversion hinfo hdirty
      refine ⟨hnext, ?_⟩
      rw [Tables.hear_of_version_ne hversion, hdirty, hclean,
        (hsame.trans hnext).caPids_eq hlisted hunknown, hinfo, Bool.false_or, knownOf]
      simp only [decide_eq_true_eq]
  refine ⟨sameBut_settle (hsame.trans hstep.1), ?_⟩
  rw [← hstep.2, knownOf, tables_settle, derivedPids_settle]
  rfl

/-- The sections can be received one at a time in this order. -/
theorem exists_heard (hs : Reachable s) (h : Unheard s pid)
    (hsections : ∀ sec ∈ sections, IsPmtSection s.tables.caidFilter sec)
    (order : List (List UInt8)) (horder : ∀ sec ∈ order, sec ∈ sections) :
    ∃ next, Receives s (order.map (Prod.mk pid)) next ∧ pendingOf next pid = [] ∧
      SameBut pid s.tables next.tables ∧ knownOf next pid = heard s.tables pid order := by
  induction order using List.reverseRecOn with
  | nil =>
    have hknown : knownOf s pid = heard s.tables pid [] := by
      rw [knownOf, h.infoOf, h.derivedPids]
      rfl
    exact ⟨s, ⟨[], rfl, (List.append_nil _).symm⟩, h.idle, SameBut.refl pid _, hknown⟩
  | append_singleton order sec ih =>
    obtain ⟨mid, hmid, hidle, hsame, hknown⟩ :=
      ih fun sec hsec ↦ horder sec (List.mem_append_left _ hsec)
    have hmidreach : Reachable mid := hmid.reachable hs
    have hsec : IsPmtSection s.tables.caidFilter sec := hsections sec (horder sec (by simp))
    have husable : Usable pid := h.usable hs
    have hwatch : pid ∈ mid.watchedPids := by
      rw [hmidreach.settled.watchedPids, Tables.watchSet, hsame.patPmtPids]
      exact Finset.mem_union_right _ h.listed
    obtain ⟨next, hnext, hdelivered⟩ := exists_delivery hmidreach
      (husable.2.trans (by decide)) hwatch hidle hsec.sendable
    obtain ⟨hsamenext, hheard⟩ := hdelivered.heard hsame h.listed h.unknown husable.1.ne' h.ne_cat
      hmidreach.not_dirty hsec
    refine ⟨next, ?_, hdelivered.1, hsamenext, ?_⟩
    · rw [List.map_append]
      exact hmid.trans hnext
    · rw [hheard, hknown, Tables.heard_append]
      rfl

/-- What the programs call for is in the derived set after every order in which the parser can
receive their sections. -/
theorem ServesAll.heard (hserves : ServesAll s pid sections) (hs : Reachable s) (h : Unheard s pid)
    (hsections : ∀ sec ∈ sections, IsPmtSection s.tables.caidFilter sec)
    (order : List (List UInt8)) (horder : ∀ sec, sec ∈ order ↔ sec ∈ sections) :
    s.tables.neededPids pid sections ∩
        s.tables.caPidsWith (s.tables.neededPids pid sections) ⊆ (heard s.tables pid order).2 := by
  obtain ⟨next, hnext, -, -, hknown⟩ :=
    exists_heard hs h hsections order fun sec hsec ↦ (horder sec).mp hsec
  rw [← hknown]
  refine (hserves _ next hnext ?_ ?_).1
  · intro x hx
    obtain ⟨sec, hsec, rfl⟩ := List.mem_map.mp hx
    exact ⟨rfl, (horder sec).mp hsec⟩
  · exact fun sec hsec ↦ List.mem_map.mpr ⟨sec, (horder sec).mpr hsec, rfl⟩

/-- A program that differs in version and ECM pids, received in between, makes sure that the
program received last is read. -/
theorem exists_order_read (pid : ℕ) {other : List UInt8} (hsec : sec ∈ sections)
    (hother : other ∈ sections)
    (hversion : (infoIn t.caidFilter other).version ≠ (infoIn t.caidFilter sec).version)
    (hecm : (infoIn t.caidFilter other).ecmPids ≠ (infoIn t.caidFilter sec).ecmPids) :
    ∃ order, (∀ any, any ∈ order ↔ any ∈ sections) ∧
      (heard t pid order).2 =
        t.caPidsWith (calledFor t.joinedPids pid (infoIn t.caidFilter sec)) := by
  refine ⟨sections.toList ++ [sec, other, sec], fun any ↦ ?_, ?_⟩
  · rw [List.mem_append, Finset.mem_toList]
    constructor
    · rintro (hany | hany)
      · exact hany
      · simp only [List.mem_cons, List.not_mem_nil, or_false] at hany
        rcases hany with rfl | rfl | rfl <;> assumption
    · exact Or.inl
  · rw [Tables.heard_append]
    exact Tables.hear_hear_hear hversion hecm

/-- When every other program has the version or the ECM pids of the first, the first is the only one
that is reported. -/
theorem exists_order_unreported (pid : ℕ) (hread : IsPmtSection t.caidFilter sec)
    (hsec : sec ∈ sections)
    (halike : ∀ other ∈ sections,
      (infoIn t.caidFilter other).ecmPids ≠ (infoIn t.caidFilter sec).ecmPids →
        (infoIn t.caidFilter sec).version = (infoIn t.caidFilter other).version) :
    ∃ order, (∀ any, any ∈ order ↔ any ∈ sections) ∧
      (heard t pid order).2 = if (∅ : Finset ℕ) ≠ (infoIn t.caidFilter sec).ecmPids then
        t.caPidsWith (calledFor t.joinedPids pid (infoIn t.caidFilter sec)) else t.caPids := by
  -- First the program itself, then those of its version, which are skipped, and then those that
  -- confirm its ECM pids, which are not reported.
  let differs (other : List UInt8) : Prop :=
    (infoIn t.caidFilter other).ecmPids ≠ (infoIn t.caidFilter sec).ecmPids
  refine ⟨sec :: ((sections.filter differs).toList ++
    (sections.filter fun other ↦ ¬ differs other).toList), fun any ↦ ?_, ?_⟩
  · rw [List.mem_cons, List.mem_append, Finset.mem_toList, Finset.mem_toList, Finset.mem_filter,
      Finset.mem_filter, ← and_or_left, and_iff_left (em _)]
    constructor
    · rintro (rfl | hany)
      · exact hsec
      · exact hany
    · exact Or.inr
  · have hfirst : hear t pid ({}, t.caPids) (infoIn t.caidFilter sec) =
        (infoIn t.caidFilter sec, if (∅ : Finset ℕ) ≠ (infoIn t.caidFilter sec).ecmPids then
          t.caPidsWith (calledFor t.joinedPids pid (infoIn t.caidFilter sec)) else t.caPids) :=
      Tables.hear_of_version_ne (version_infoIn_ne_none hread).symm
    have hskipped : ∀ info ∈ (sections.filter differs).toList.map (infoIn t.caidFilter),
        (infoIn t.caidFilter sec).version = info.version := by
      intro info hinfo
      obtain ⟨other, hmem, rfl⟩ := List.mem_map.mp hinfo
      obtain ⟨hmem, hecm⟩ := Finset.mem_filter.mp (Finset.mem_toList.mp hmem)
      exact halike other hmem hecm
    have hsilent : ∀ info ∈
        (sections.filter fun other ↦ ¬ differs other).toList.map (infoIn t.caidFilter),
        info.ecmPids = (infoIn t.caidFilter sec).ecmPids := by
      intro info hinfo
      obtain ⟨other, hmem, rfl⟩ := List.mem_map.mp hinfo
      exact not_not.mp (Finset.mem_filter.mp (Finset.mem_toList.mp hmem)).2
    rw [heard, List.map_cons, List.foldl_cons, hfirst, List.map_append, List.foldl_append,
      Tables.foldl_hear_of_version t pid _ ((sections.filter differs).toList.map _) hskipped,
      (Tables.foldl_hear_of_ecmPids t pid _ _ hsilent).2]

/-- There is an order after which the derived set belongs to one program alone, or is the one from
before. -/
theorem exists_order_alone (pid : ℕ) (hsections : ∀ sec ∈ sections, IsPmtSection t.caidFilter sec)
    (hsec : sec ∈ sections) :
    ∃ order, (∀ other, other ∈ order ↔ other ∈ sections) ∧
      ((heard t pid order).2 = t.caPidsWith (calledFor t.joinedPids pid (infoIn t.caidFilter sec)) ∨
        (heard t pid order).2 = t.caPids) := by
  by_cases hother : ∃ other ∈ sections,
      (infoIn t.caidFilter other).version ≠ (infoIn t.caidFilter sec).version ∧
        (infoIn t.caidFilter other).ecmPids ≠ (infoIn t.caidFilter sec).ecmPids
  · obtain ⟨other, hother, hversion, hecm⟩ := hother
    obtain ⟨order, hall, halone⟩ := exists_order_read pid hsec hother hversion hecm
    exact ⟨order, hall, Or.inl halone⟩
  · obtain ⟨order, hall, hset⟩ := exists_order_unreported pid (hsections sec hsec) hsec
      fun other hmem hecm ↦ by_contra fun hversion ↦ hother ⟨other, hmem, Ne.symm hversion, hecm⟩
    refine ⟨order, hall, ?_⟩
    rw [hset]
    split
    · exact Or.inl rfl
    · exact Or.inr rfl

/-- None of the programs received so far was noticed. -/
def Unnoticed (t : Tables) (pid : ℕ) (order : List (List UInt8)) : Prop :=
  (heard t pid order).1.ecmPids = ∅ ∧ (heard t pid order).2 = t.caPids

/-- A program without ECM pids is not noticed. -/
theorem Unnoticed.append_of_ecmPids {order : List (List UInt8)} (h : Unnoticed t pid order)
    (hecm : (infoIn t.caidFilter sec).ecmPids = ∅) : Unnoticed t pid (order ++ [sec]) := by
  have hsilent := Tables.foldl_hear_of_ecmPids t pid (heard t pid order)
    [infoIn t.caidFilter sec] (by simp [hecm, h.1])
  rw [Unnoticed, Tables.heard_append]
  exact ⟨hsilent.1.trans h.1, hsilent.2.trans h.2⟩

/-- A program is skipped behind one of the same version. -/
theorem heard_append_of_version (t : Tables) (pid : ℕ) (order : List (List UInt8))
    {other : List UInt8}
    (hversion : (infoIn t.caidFilter other).version = (infoIn t.caidFilter sec).version) :
    heard t pid (order ++ [other] ++ [sec]) = heard t pid (order ++ [other]) := by
  rw [Tables.heard_append _ [sec]]
  apply Tables.foldl_hear_of_version
  intro info hinfo
  obtain rfl := List.mem_singleton.mp hinfo
  rw [Tables.heard_append, ← hversion]
  exact Tables.version_hear

/-- A program that can be missed is received without being noticed. -/
theorem Unnoticed.exists_append {order : List (List UInt8)} (h : Unnoticed t pid order)
    (hsec : sec ∈ sections) (hblind : ¬ t.Notices sections sec) :
    ∃ more, (∀ other ∈ more, other ∈ sections) ∧ sec ∈ more ∧ Unnoticed t pid (order ++ more) := by
  by_cases hnone : (infoIn t.caidFilter sec).ecmPids = ∅
  · exact ⟨[sec], by simpa using hsec, by simp, h.append_of_ecmPids hnone⟩
  · -- A program of the same version that has no ECM pids comes first.
    simp only [Tables.Notices, not_and, not_forall, not_not] at hblind
    obtain ⟨other, hother, hversion, hecm⟩ := hblind hnone
    refine ⟨[other, sec], by simp [hother, hsec], by simp, ?_⟩
    rw [List.append_cons, Unnoticed, heard_append_of_version t pid order hversion]
    exact h.append_of_ecmPids hecm

/-- When every program can be missed, there is an order in which all of them are. -/
theorem exists_order_unnoticed (pid : ℕ) (hsections : ∀ sec ∈ sections, ¬ t.Notices sections sec)
    (secs : List (List UInt8)) (hsecs : ∀ sec ∈ secs, sec ∈ sections) :
    ∃ order, (∀ sec ∈ order, sec ∈ sections) ∧ (∀ sec ∈ secs, sec ∈ order) ∧
      Unnoticed t pid order := by
  induction secs using List.reverseRecOn with
  | nil => exact ⟨[], by simp, by simp, rfl, rfl⟩
  | append_singleton secs sec ih =>
    obtain ⟨hsecs, hlast⟩ := List.forall_mem_append.mp hsecs
    have hsec : sec ∈ sections := hlast sec (List.mem_singleton_self sec)
    obtain ⟨order, horder, hall, hunnoticed⟩ := ih hsecs
    obtain ⟨more, hmore, hin, hnext⟩ := hunnoticed.exists_append hsec (hsections sec hsec)
    refine ⟨order ++ more, List.forall_mem_append.mpr ⟨horder, hmore⟩,
      List.forall_mem_append.mpr
        ⟨fun other hother ↦ List.mem_append_left _ (hall other hother), ?_⟩, hnext⟩
    intro other hother
    rw [List.mem_singleton.mp hother]
    exact List.mem_append_right _ hin

/-- Programs that are served in any order are interchangeable. -/
theorem ServesAll.interchangeable (hserves : ServesAll s pid sections) (hs : Reachable s)
    (h : Unheard s pid) (hsections : ∀ sec ∈ sections, IsPmtSection s.tables.caidFilter sec) :
    s.tables.Interchangeable pid sections := by
  have hbase : ∀ pids, pids ⊆ s.tables.neededPids pid sections →
      (s.tables.neededPids pid sections ∩
        s.tables.caPidsWith (s.tables.neededPids pid sections) ⊆ s.tables.caPids) →
      s.tables.caPidsWith pids = s.tables.caPidsWith (s.tables.neededPids pid sections) := by
    intro pids hpids hkept
    apply Tables.caPidsWith_eq_of_between hpids
    rw [← Tables.caPidsWith_empty] at hkept ⊢
    exact Tables.caPidsWith_eq_of_subset (Finset.empty_subset _) hkept
  constructor
  · intro sec hsec
    have hsubset := Tables.calledFor_subset_neededPids s.tables pid hsec
    obtain ⟨order, horder, halone⟩ := exists_order_alone pid hsections hsec
    have hkept := hserves.heard hs h hsections order horder
    rcases halone with halone | hbefore
    · rw [halone] at hkept
      exact Tables.caPidsWith_eq_of_subset hsubset hkept
    · rw [hbefore] at hkept
      exact hbase _ hsubset hkept
  · by_cases hnotices : ∃ sec ∈ sections, s.tables.Notices sections sec
    · exact Or.inr hnotices
    · left
      push Not at hnotices
      obtain ⟨order, horder, hall, -, hpids⟩ := exists_order_unnoticed pid hnotices
        sections.toList fun sec hsec ↦ Finset.mem_toList.mp hsec
      have hkept := hserves.heard hs h hsections order fun sec ↦
        ⟨horder sec, fun hsec ↦ hall sec (Finset.mem_toList.mpr hsec)⟩
      rw [hpids] at hkept
      rw [← Tables.caPidsWith_empty]
      exact hbase ∅ (Finset.empty_subset _) hkept

/-- Programs that share a PMT pid are served in whatever order their sections arrive exactly when
they are interchangeable. -/
theorem servesAll_iff (hs : Reachable s) (h : Unheard s pid)
    (hsections : ∀ sec ∈ sections, IsPmtSection s.tables.caidFilter sec) :
    ServesAll s pid sections ↔ s.tables.Interchangeable pid sections :=
  ⟨fun hserves ↦ hserves.interchangeable hs h hsections,
    servesAll_of_interchangeable hs h hsections⟩

/-- A PAT with programs 1 and 2, both with PMT pid 100. -/
def sharedPatSection : List UInt8 :=
  [0, 176, 17, 0, 1, 193, 0, 0, 0, 1, 224, 100, 0, 2, 224, 100, 24, 169, 7, 231]

/-- The PMT of program 2, with elementary stream 102 and ECM pid 600. -/
def secondPmtSection : List UInt8 :=
  [2, 176, 24, 0, 2, 193, 0, 0, 224, 102, 240, 6, 9, 4, 24, 51, 226, 88, 2, 224, 102, 240, 0, 9,
    50, 51, 62]

/-- The same with the ECM pid of program 1. -/
def sameEcmPmtSection : List UInt8 :=
  [2, 176, 24, 0, 2, 193, 0, 0, 224, 102, 240, 6, 9, 4, 24, 51, 225, 244, 2, 224, 102, 240, 0, 160,
    162, 102, 39]

/-- The PAT is received, and an elementary stream of each program is joined. -/
def sharedRun : List Op := [.processTS (packetOf 0 sharedPatSection), .setJoinedPids {101, 102}]

/-- The PMT sections of both programs have version 0, so that the second is skipped and its ECM pid
is missing. -/
theorem not_servesAll :
    ¬ ∀ s pid sections, Reachable s → Unheard s pid →
      (∀ sec ∈ sections, IsPmtSection s.tables.caidFilter sec) →
      (∀ sec ∈ sections, ∀ other ∈ sections, slice sec 3 2 = slice other 3 2 → sec = other) →
        ServesAll s pid sections := by
  intro h
  have hruns : ((Runs.run step (construct true false ∅) sharedRun).bind fun s ↦
      (processTS (packetOf 100 scrambledPmtSection ++ packetOf 100 secondPmtSection) s).map
        fun next ↦ decide ((100 ∈ s.tables.patPmtPids ∧ s.tables.pmt 100 = none ∧
            pendingOf s 100 = [] ∧ s.derivedPids = s.tables.caPids) ∧
          (∀ sec ∈ ({scrambledPmtSection, secondPmtSection} : Finset (List UInt8)),
            IsPmtSection s.tables.caidFilter sec) ∧
          handed next.trace =
            handed s.trace ++ [(100, scrambledPmtSection), (100, secondPmtSection)] ∧
          600 ∈ s.tables.neededPids 100 {scrambledPmtSection, secondPmtSection} ∩
            s.tables.caPidsWith (s.tables.neededPids 100 {scrambledPmtSection, secondPmtSection}) ∧
          next.derivedPids = {0, 100, 500})) = some true := by
    decide +kernel
  obtain ⟨s, hs, hruns⟩ := Option.bind_eq_some_iff.mp hruns
  obtain ⟨next, hnext, hfields⟩ := Option.map_eq_some_iff.mp hruns
  obtain ⟨⟨hlisted, hunknown, hidle, hderived⟩, hsections, hhanded, hneeded, hset⟩ :=
    of_decide_eq_true hfields
  have hreach : Reachable s := ⟨true, false, ∅, sharedRun, hs⟩
  have hreceives : Receives s [(100, scrambledPmtSection), (100, secondPmtSection)] next :=
    ⟨[_], by rw [List.map_singleton, Runs.run_cons, step, hnext]; rfl, hhanded⟩
  have hserves := h s 100 {scrambledPmtSection, secondPmtSection} hreach
    ⟨hlisted, by decide, hunknown, hidle, hderived⟩ hsections (by decide)
  have hsubset := (hserves _ next hreceives (by simp [OnlySections]) (by decide)).1 hneeded
  rw [hset] at hsubset
  revert hsubset
  decide

theorem servesAll_iff_sameEcmPmtSection :
    ∃ s, Runs.run step (construct true false ∅) sharedRun = some s ∧
      ServesAll s 100 {scrambledPmtSection, sameEcmPmtSection} := by
  have hrun : (Runs.run step (construct true false ∅) sharedRun).map (fun s ↦
      decide ((100 ∈ s.tables.patPmtPids ∧ s.tables.pmt 100 = none ∧ pendingOf s 100 = [] ∧
          s.derivedPids = s.tables.caPids) ∧
        (∀ sec ∈ ({scrambledPmtSection, sameEcmPmtSection} : Finset (List UInt8)),
          IsPmtSection s.tables.caidFilter sec) ∧
        s.tables.Interchangeable 100 {scrambledPmtSection, sameEcmPmtSection})) = some true := by
    decide +kernel
  obtain ⟨s, hs, hfields⟩ := Option.map_eq_some_iff.mp hrun
  obtain ⟨⟨hlisted, hunknown, hidle, hderived⟩, hsections, hinterchangeable⟩ :=
    of_decide_eq_true hfields
  have hreach : Reachable s := ⟨true, false, ∅, sharedRun, hs⟩
  exact ⟨s, hs, (servesAll_iff hreach ⟨hlisted, by decide, hunknown, hidle, hderived⟩
    hsections).mpr hinterchangeable⟩

end SatipClient.PSI
