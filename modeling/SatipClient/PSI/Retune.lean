import SatipClient.PSI.Carousel

/-!
# Packets of the old transponder after a retune

After `reset` the RTP thread may still hand over packets of the transponder that was left.  What
the parser learns from them stays in its tables, and the sections of the new transponder are then
read beside it: version numbers and section numbers of two transponders are compared as if they
belonged to one.  The set reported in the end is that of the new transponder
(`retune_isolated`) when none of its sections is skipped for a version that a late packet brought,
no PAT or CAT section of a late packet is kept as part of the new table, and no section is one that
`parsePMT` fails to report.
-/

namespace SatipClient.PSI

open Checked

namespace Tables

/-! ## What sections say -/

/-- What the sections on one pid list together. -/
def unionOf (pid : ℕ) (read : List UInt8 → Option (Finset ℕ))
    (sections : Finset (ℕ × List UInt8)) : Finset ℕ :=
  sections.biUnion fun x ↦ if x.1 = pid then (read x.2).getD ∅ else ∅

/-- The PMT pids in the PAT sections. -/
def patPmtPidsOf (sections : Finset (ℕ × List UInt8)) : Finset ℕ :=
  unionOf psiPidPat (fun sec ↦ patProgramsFrom sec 8 ∅) sections

/-- The EMM pids in a CAT section. -/
def emmPidsIn (caidFilter : Finset ℕ) (sec : List UInt8) : Option (Finset ℕ) := do
  let descriptors ← slice sec 8 (sec.length - 4 - 8)
  collectCaDescriptors caidFilter descriptors ∅

/-- The EMM pids in the CAT sections. -/
def emmPidsOf (caidFilter : Finset ℕ) (sections : Finset (ℕ × List UInt8)) : Finset ℕ :=
  unionOf psiPidCat (emmPidsIn caidFilter) sections

/-- The ECM pids and the elementary stream pids in a PMT section. -/
def serviceIn (caidFilter : Finset ℕ) (sec : List UInt8) : Option (Finset ℕ × Finset ℕ) := do
  let lengthHigh ← byteAt sec 10
  let lengthLow ← byteAt sec 11
  if 12 + lengthOfBytes lengthHigh lengthLow + 4 ≤ sec.length then
    pmtContents caidFilter sec (lengthOfBytes lengthHigh lengthLow)
  else none

/-- What the PMT sections on a pid say of its service. -/
def serviceOf (caidFilter : Finset ℕ) (sections : Finset (ℕ × List UInt8)) (pid : ℕ) :
    PmtInfo where
  ecmPids := unionOf pid (fun sec ↦ (serviceIn caidFilter sec).map Prod.fst) sections
  esPids := unionOf pid (fun sec ↦ (serviceIn caidFilter sec).map Prod.snd) sections

/-- The tables of a parser that knows these sections and nothing else. -/
def ofSections (emmEnabled : Bool) (caidFilter joinedPids : Finset ℕ)
    (sections : Finset (ℕ × List UInt8)) : Tables where
  emmEnabled := emmEnabled
  caidFilter := caidFilter
  joinedPids := joinedPids
  patPmtPids := patPmtPidsOf sections
  emmPids := emmPidsOf caidFilter sections
  pmt pid := some (serviceOf caidFilter sections pid)

/-- The sections of a well-formed transponder: it has a PAT, and every service listed there has a
PMT section on a pid of its own that can be read. -/
structure Transponder (caidFilter : Finset ℕ) (sections : Finset (ℕ × List UInt8)) : Prop where
  carousel : Carousel (sections : Set (ℕ × List UInt8))
  pat : ∃ sec, (psiPidPat, sec) ∈ sections
  service : ∀ pid ∈ patPmtPidsOf sections, pid ≠ psiPidPat ∧ pid ≠ psiPidCat ∧
    ∃ sec, (pid, sec) ∈ sections
  readable : ∀ pid sec, (pid, sec) ∈ sections → pid ≠ psiPidPat → pid ≠ psiPidCat →
    ∃ contents, serviceIn caidFilter sec = some contents

/-! ## What may be left of another transponder -/

/-- No section that is known will be taken for a part of the PAT or the CAT of the transponder,
unless it is about to be replaced or says nothing new. -/
structure NoLeftovers (sections : Finset (ℕ × List UInt8)) (t : Tables) : Prop where
  pat : ∀ first number pids, (psiPidPat, first) ∈ sections →
    (byteAt first 5).map versionOf = t.patVersion → t.patSections number = some pids →
      (∃ sec, (psiPidPat, sec) ∈ sections ∧ byteAt sec 6 = some number) ∨
        pids ⊆ patPmtPidsOf sections
  cat : t.emmEnabled = true → ∀ first number pids, (psiPidCat, first) ∈ sections →
    (byteAt first 5).map versionOf = t.catVersion → t.catSections number = some pids →
      (∃ sec, (psiPidCat, sec) ∈ sections ∧ byteAt sec 6 = some number) ∨
        pids ⊆ emmPidsOf t.caidFilter sections
  emm : t.emmEnabled = true → (∀ sec, (psiPidCat, sec) ∉ sections) → t.emmPids = ∅

/-- A PMT section is skipped because its version is the one stored, although it says something
else of the service than what is stored. -/
structure SkipsNews (t : Tables) (pid : ℕ) (sec : List UInt8) : Prop where
  isTable : IsTable sec 0x02
  ne_pat : pid ≠ psiPidPat
  ne_cat : pid ≠ psiPidCat
  version : ∃ version ∈ (byteAt sec 5).map versionOf, (t.infoOf pid).version = some version
  news : serviceIn t.caidFilter sec ≠ some ((t.infoOf pid).ecmPids, (t.infoOf pid).esPids)

instance (t : Tables) (pid : ℕ) (sec : List UInt8) : Decidable (t.SkipsNews pid sec) :=
  decidable_of_iff (IsTable sec 0x02 ∧ pid ≠ psiPidPat ∧ pid ≠ psiPidCat ∧
      (∃ version ∈ (byteAt sec 5).map versionOf, (t.infoOf pid).version = some version) ∧
        serviceIn t.caidFilter sec ≠
          some ((t.infoOf pid).ecmPids, (t.infoOf pid).esPids))
    ⟨fun h ↦ ⟨h.1, h.2.1, h.2.2.1, h.2.2.2.1, h.2.2.2.2⟩,
      fun h ↦ ⟨h.isTable, h.ne_pat, h.ne_cat, h.version, h.news⟩⟩

variable {t t' : Tables} {pid otherPid : ℕ} {sec other : List UInt8}
  {sections : Finset (ℕ × List UInt8)}

/-- The sections of the transponder itself are no leftovers. -/
theorem NoLeftovers.of_handleSection (h : t.NoLeftovers sections)
    (hcarousel : Carousel (sections : Set (ℕ × List UInt8))) (hsec : (pid, sec) ∈ sections)
    (hhandle : handleSection pid sec t = some t') : t'.NoLeftovers sections := by
  rw [handleSection_of_tableOf (hcarousel.isTable _ _ hsec)] at hhandle
  split_ifs at hhandle with hpat hcat
  · subst hpat
    obtain ⟨flags, number, pids, -, hnumber, -, rfl⟩ := parsePAT_cases hhandle
    refine ⟨fun first place found hfirst hversion hfound ↦ ?_, h.cat, h.emm⟩
    rcases enter_cases hfound with ⟨rfl, -⟩ | ⟨hknown, hstored⟩
    · exact Or.inl ⟨sec, hsec, hnumber⟩
    · exact h.pat first place found hfirst (hversion.trans hknown.symm) hstored
  · subst hcat
    obtain ⟨flags, number, descriptors, pids, -, hnumber, -, -, rfl⟩ := parseCAT_cases hhandle
    refine ⟨h.pat, fun hemm first place found hfirst hversion hfound ↦ ?_,
      fun hemm hnone ↦ absurd hsec (hnone sec)⟩
    rcases enter_cases hfound with ⟨rfl, -⟩ | ⟨hknown, hstored⟩
    · exact Or.inl ⟨sec, hsec, hnumber⟩
    · exact h.cat hemm first place found hfirst (hversion.trans hknown.symm) hstored
  · rcases parsePMT_cases hhandle with ⟨-, rfl⟩ | ⟨version, ecmPids, esPids, -, rfl⟩
    · exact ⟨h.pat, h.cat, h.emm⟩
    · exact ⟨h.pat, h.cat, h.emm⟩

/-! ## What is known of a service -/

/-- The entry of the service says what the PMT section says. -/
def Shows (t : Tables) (pid : ℕ) (sec : List UInt8) : Prop :=
  ∃ info, t.pmt pid = some info ∧ serviceIn t.caidFilter sec = some (info.ecmPids, info.esPids)

theorem serviceIn_of_pmtStored {version : ℕ} {ecmPids esPids : Finset ℕ}
    (h : t.pmtStored pid sec = some (version, ecmPids, esPids)) :
    serviceIn t.caidFilter sec = some (ecmPids, esPids) := by
  simp only [pmtStored, Option.bind_eq_bind, Option.bind_eq_some_iff] at h
  obtain ⟨flags, -, lengthHigh, hhigh, lengthLow, hlow, h⟩ := h
  split_ifs at h with hnew
  obtain ⟨contents, hcontents, heq⟩ := Option.map_eq_some_iff.mp h
  simp only [serviceIn, hhigh, hlow, Option.bind_eq_bind, Option.bind_some, if_pos hnew.2]
  rw [hcontents, (Prod.mk.inj heq).2]

/-- A section that can be read is skipped only for its version. -/
theorem version_of_pmtStored_eq_none {flags : ℕ} {contents : Finset ℕ × Finset ℕ}
    (hflags : byteAt sec 5 = some flags) (hservice : serviceIn t.caidFilter sec = some contents)
    (hnone : t.pmtStored pid sec = none) : (t.infoOf pid).version = some (versionOf flags) := by
  simp only [serviceIn, Option.bind_eq_bind, Option.bind_eq_some_iff] at hservice
  obtain ⟨lengthHigh, hhigh, lengthLow, hlow, hservice⟩ := hservice
  split_ifs at hservice with hfits
  by_contra hversion
  rw [pmtStored_of_reads hflags hhigh hlow hversion hfits, hservice] at hnone
  cases hnone

theorem shows_of_parsePMT {contents : Finset ℕ × Finset ℕ} {flags : ℕ}
    (hflags : byteAt sec 5 = some flags) (hservice : serviceIn t.caidFilter sec = some contents)
    (hskip : (t.infoOf pid).version = some (versionOf flags) →
      serviceIn t.caidFilter sec = some ((t.infoOf pid).ecmPids, (t.infoOf pid).esPids))
    (h : parsePMT pid sec t = some t') : t'.Shows pid sec := by
  rcases parsePMT_cases h with ⟨hnone, rfl⟩ | ⟨version, ecmPids, esPids, hstored, rfl⟩
  · exact ⟨t.infoOf pid, Function.update_self ..,
      hskip (version_of_pmtStored_eq_none hflags hservice hnone)⟩
  · have hread : serviceIn t.caidFilter sec = some (ecmPids, esPids) :=
      serviceIn_of_pmtStored hstored
    exact ⟨⟨some version, ecmPids, esPids⟩, Function.update_self .., hread⟩

/-- A PMT section that is not skipped wrongly is known afterwards. -/
theorem shows_of_handleSection (htable : IsTable sec (tableOf pid)) (hpat : pid ≠ psiPidPat)
    (hcat : pid ≠ psiPidCat) (hservice : ∃ contents, serviceIn t.caidFilter sec = some contents)
    (hskip : ¬ t.SkipsNews pid sec) (h : handleSection pid sec t = some t') :
    t'.Shows pid sec := by
  obtain ⟨contents, hcontents⟩ := hservice
  obtain ⟨flags, hflags, -⟩ := htable.current_next
  rw [Option.mem_def] at hflags
  rw [handleSection_of_tableOf htable, if_neg hpat, if_neg hcat] at h
  rw [tableOf, if_neg hpat, if_neg hcat] at htable
  refine shows_of_parsePMT (t := t.countSection) hflags hcontents (fun hversion ↦ ?_) h
  by_contra hnews
  exact hskip ⟨htable, hpat, hcat, ⟨versionOf flags, by rw [hflags]; rfl, hversion⟩, hnews⟩

/-- Once the whole PAT is known, what is known of a service stays. -/
theorem Shows.of_handleSection (h : t.Shows pid sec)
    (hcarousel : Carousel (sections : Set (ℕ × List UInt8)))
    (hpat : ∀ sec, (psiPidPat, sec) ∈ sections → t.PatEntered sec)
    (hother : (otherPid, other) ∈ sections) (hne : pid ≠ otherPid)
    (hhandle : handleSection otherPid other t = some t') : t'.Shows pid sec := by
  have htable := hcarousel.isTable _ _ hother
  by_cases hother0 : otherPid = psiPidPat
  · subst hother0
    obtain rfl := handleSection_of_entered htable (hpat other hother) hhandle
    exact h
  by_cases hother1 : otherPid = psiPidCat
  · rw [handleSection_of_tableOf htable, if_neg hother0, if_pos hother1] at hhandle
    obtain ⟨flags, number, descriptors, pids, -, -, -, -, rfl⟩ := parseCAT_cases hhandle
    exact h
  rw [handleSection_of_tableOf htable, if_neg hother0, if_neg hother1] at hhandle
  obtain ⟨hpmt, hfilter⟩ := parsePMT_frame hne hhandle
  obtain ⟨info, hinfo, hservice⟩ := h
  exact ⟨info, hpmt.trans hinfo, by rw [hfilter]; exact hservice⟩

/-! ## The set that belongs to the transponder -/

theorem mem_unionOf {listed : ℕ} {read : List UInt8 → Option (Finset ℕ)} :
    listed ∈ unionOf pid read sections ↔
      ∃ sec, (pid, sec) ∈ sections ∧ listed ∈ (read sec).getD ∅ := by
  rw [unionOf, Finset.mem_biUnion]
  constructor
  · rintro ⟨⟨pid', sec⟩, hsec, hlisted⟩
    split_ifs at hlisted with hpid
    · obtain rfl : pid' = pid := hpid
      exact ⟨sec, hsec, hlisted⟩
    · simp at hlisted
  · rintro ⟨sec, hsec, hlisted⟩
    exact ⟨(pid, sec), hsec, by rwa [if_pos rfl]⟩

/-- What one section lists, when no other is on its pid. -/
theorem unionOf_eq {read : List UInt8 → Option (Finset ℕ)} {pids : Finset ℕ}
    (hsec : (pid, sec) ∈ sections) (hread : read sec = some pids)
    (hone : ∀ other, (pid, other) ∈ sections → other = sec) : unionOf pid read sections = pids := by
  ext listed
  rw [mem_unionOf]
  constructor
  · rintro ⟨other, hother, hlisted⟩
    rw [hone other hother, hread] at hlisted
    exact hlisted
  · intro hlisted
    exact ⟨sec, hsec, by rwa [hread]⟩

theorem mem_sectionUnion {stored : ℕ → Option (Finset ℕ)} :
    pid ∈ sectionUnion stored ↔ ∃ number < 256, pid ∈ (stored number).getD ∅ := by
  simp [sectionUnion]

/-- A section map that holds every section of the transponder, and nothing else that it does not
list, holds what the transponder lists. -/
theorem sectionUnion_eq {stored : ℕ → Option (Finset ℕ)} {read : List UInt8 → Option (Finset ℕ)}
    (hentered : ∀ sec, (pid, sec) ∈ sections → ∃ number pids,
      byteAt sec 6 = some number ∧ read sec = some pids ∧ stored number = some pids)
    (hown : ∀ number pids, stored number = some pids →
      (∃ sec, (pid, sec) ∈ sections ∧ byteAt sec 6 = some number) ∨
        pids ⊆ unionOf pid read sections) :
    sectionUnion stored = unionOf pid read sections := by
  ext listed
  rw [mem_sectionUnion, mem_unionOf]
  constructor
  · intro hmem
    obtain ⟨number, -, hlisted⟩ := hmem
    cases hstored : stored number with
    | none => simp [hstored] at hlisted
    | some pids =>
      rw [hstored, Option.getD_some] at hlisted
      rcases hown number pids hstored with ⟨sec, hsec, hnumber⟩ | hsub
      · obtain ⟨number', pids', hnumber', hread, hstored'⟩ := hentered sec hsec
        obtain rfl := Option.some.inj (hnumber.symm.trans hnumber')
        obtain rfl := Option.some.inj (hstored.symm.trans hstored')
        exact ⟨sec, hsec, by rw [hread]; exact hlisted⟩
      · exact mem_unionOf.mp (hsub hlisted)
  · intro hmem
    obtain ⟨sec, hsec, hlisted⟩ := hmem
    obtain ⟨number, pids, hnumber, hread, hstored⟩ := hentered sec hsec
    rw [hread, Option.getD_some] at hlisted
    exact ⟨number, byteAt_lt hnumber, by rw [hstored]; exact hlisted⟩

theorem patPmtPids_eq (hsections : ∃ sec, (psiPidPat, sec) ∈ sections)
    (hleft : t.NoLeftovers sections)
    (hentered : ∀ sec, (psiPidPat, sec) ∈ sections → t.PatEntered sec) :
    t.patPmtPids = patPmtPidsOf sections := by
  obtain ⟨first, hfirst⟩ := hsections
  obtain ⟨flags, -, -, hflags, -, -, hversion, -, hunion⟩ := hentered first hfirst
  rw [hunion]
  apply sectionUnion_eq
  · intro sec hsec
    obtain ⟨-, number, pids, -, hnumber, hpids, -, hstored, -⟩ := hentered sec hsec
    exact ⟨number, pids, hnumber, hpids, hstored⟩
  · intro number pids hstored
    exact hleft.pat first number pids hfirst (by rw [hflags, hversion]; rfl) hstored

theorem emmPids_eq (hleft : t.NoLeftovers sections) (hemm : t.emmEnabled = true)
    (hentered : ∀ sec, (psiPidCat, sec) ∈ sections → t.CatEntered sec) :
    t.emmPids = emmPidsOf t.caidFilter sections := by
  by_cases hsections : ∃ sec, (psiPidCat, sec) ∈ sections
  · obtain ⟨first, hfirst⟩ := hsections
    obtain ⟨flags, -, -, -, hflags, -, -, -, hversion, -, hunion⟩ := hentered first hfirst
    rw [hunion]
    apply sectionUnion_eq
    · intro sec hsec
      obtain ⟨-, number, descriptors, pids, -, hnumber, hdescriptors, hpids, -, hstored, -⟩ :=
        hentered sec hsec
      exact ⟨number, pids, hnumber, by simp [emmPidsIn, hdescriptors, hpids], hstored⟩
    · intro number pids hstored
      exact hleft.cat hemm first number pids hfirst (by rw [hflags, hversion]; rfl) hstored
  · rw [hleft.emm hemm (not_exists.mp hsections)]
    symm
    rw [Finset.eq_empty_iff_forall_notMem]
    intro listed hlisted
    obtain ⟨sec, hsec, -⟩ := mem_unionOf.mp hlisted
    exact hsections ⟨sec, hsec⟩

/-- What is known of a service of the transponder is what its PMT section says. -/
theorem infoOf_of_shows (hcarousel : Carousel (sections : Set (ℕ × List UInt8)))
    (hpat : pid ≠ psiPidPat) (hcat : pid ≠ psiPidCat) (hsec : (pid, sec) ∈ sections)
    (h : t.Shows pid sec) :
    (t.infoOf pid).ecmPids = (serviceOf t.caidFilter sections pid).ecmPids ∧
      (t.infoOf pid).esPids = (serviceOf t.caidFilter sections pid).esPids := by
  obtain ⟨info, hinfo, hservice⟩ := h
  have hone : ∀ other, (pid, other) ∈ sections → other = sec :=
    fun other hother ↦ hcarousel.pmt pid other sec hpat hcat hother hsec
  have hecmread : (serviceIn t.caidFilter sec).map Prod.fst = some info.ecmPids := by
    rw [hservice]
    rfl
  have hesread : (serviceIn t.caidFilter sec).map Prod.snd = some info.esPids := by
    rw [hservice]
    rfl
  have hecm : unionOf pid (fun sec ↦ (serviceIn t.caidFilter sec).map Prod.fst) sections =
      info.ecmPids := unionOf_eq hsec hecmread hone
  have hes : unionOf pid (fun sec ↦ (serviceIn t.caidFilter sec).map Prod.snd) sections =
      info.esPids := unionOf_eq hsec hesread hone
  rw [infoOf_of_pmt hinfo]
  exact ⟨hecm.symm, hes.symm⟩

/-- A parser that knows the transponder arrives at the set that belongs to it. -/
theorem caPids_eq_ofSections (htransponder : Transponder t.caidFilter sections)
    (hleft : t.NoLeftovers sections)
    (hpat : ∀ sec, (psiPidPat, sec) ∈ sections → t.PatEntered sec)
    (hcat : t.emmEnabled = true → ∀ sec, (psiPidCat, sec) ∈ sections → t.CatEntered sec)
    (hpmt : ∀ pid ∈ patPmtPidsOf sections, ∀ sec, (pid, sec) ∈ sections → t.Shows pid sec) :
    t.caPids = (ofSections t.emmEnabled t.caidFilter t.joinedPids sections).caPids := by
  apply caPids_congr
  · change (if t.emmEnabled then insert psiPidCat t.emmPids else ∅) =
      if t.emmEnabled then insert psiPidCat (emmPidsOf t.caidFilter sections) else ∅
    split
    case isTrue henabled => rw [emmPids_eq hleft henabled (hcat henabled)]
    case isFalse => rfl
  · exact patPmtPids_eq htransponder.pat hleft hpat
  · intro pid hpid
    obtain ⟨hpidpat, hpidcat, sec, hsec⟩ := htransponder.service pid hpid
    obtain ⟨hecm, hes⟩ :=
      infoOf_of_shows htransponder.carousel hpidpat hpidcat hsec (hpmt pid hpid sec hsec)
    rw [calledFor, calledFor, hecm, hes]
    rfl

end Tables

open Tables (Carousel Transponder ofSections)

/-! ## From the reset on -/

/-- What holds from the reset on: these are the settings and the joined pids, and the cached sets
belong to the tables or are known not to. -/
structure Since (emmEnabled : Bool) (caidFilter joinedPids : Finset ℕ) (s : SatipPSI) : Prop where
  hasCfg : s.hasCfg = true
  emmEnabled : s.tables.emmEnabled = emmEnabled
  caidFilter : s.tables.caidFilter = caidFilter
  joinedPids : s.tables.joinedPids = joinedPids
  fresh : FreshOrDirty s

variable {s next : SatipPSI} {emmEnabled : Bool} {caidFilter joinedPids : Finset ℕ}

/-- A call of `handleSection` that does not do what the transponder asks for: `parsePMT` skips
the section although it says something new, or does not report what changed. -/
def Event.Misses : Event → Prop
  | .handleSection before pid sec => before.SilentEsChange pid sec ∨ before.SkipsNews pid sec
  | .setCaPids _ => False

instance : DecidablePred Event.Misses
  | .handleSection before pid sec =>
    inferInstanceAs (Decidable (before.SilentEsChange pid sec ∨ before.SkipsNews pid sec))
  | .setCaPids _ => inferInstanceAs (Decidable False)

/-- `parsePMT` missed nothing. -/
def MissesNothing (events : List Event) : Prop := ∀ event ∈ events, ¬ event.Misses

instance (events : List Event) : Decidable (MissesNothing events) :=
  inferInstanceAs (Decidable (∀ event ∈ events, ¬ event.Misses))

theorem since_invariant :
    SectionInvariant (fun event ↦ ¬ event.Silent) fun _ s ↦
      Since emmEnabled caidFilter joinedPids s where
  frame _ s assembler tsPackets h := by
    refine ⟨h.hasCfg, h.emmEnabled, h.caidFilter, h.joinedPids, h.fresh.imp id fun hfresh ↦ ?_⟩
    exact ⟨hfresh.dirty, hfresh.derivedPids, hfresh.watchedPids⟩
  handleSection _ s pid sec next h _ hquiet hnext := by
    have hfresh := handleSection_freshOrDirty h.fresh hquiet hnext
    obtain ⟨tables, htables, rfl⟩ := exists_tables_of_handleSection hnext
    obtain ⟨hemm, hfilter, hjoined⟩ := Tables.handleSection_settings htables
    exact ⟨h.hasCfg, hemm.trans h.emmEnabled, hfilter.trans h.caidFilter,
      hjoined.trans h.joinedPids, hfresh⟩
  settle _ s h := by
    refine ⟨(hasCfg_settle s).trans h.hasCfg, ?_, ?_, ?_, Or.inr h.fresh.settle⟩
    · rw [tables_settle]
      exact h.emmEnabled
    · rw [tables_settle]
      exact h.caidFilter
    · rw [tables_settle]
      exact h.joinedPids

/-! ### The late packets -/

/-- With no pid joined no service is active, so no change of one goes unreported. -/
theorem not_silentEsChange_of_joinedPids {t : Tables} {pid : ℕ} {sec : List UInt8}
    (h : t.joinedPids = ∅) : ¬ t.SilentEsChange pid sec := by
  intro hsilent
  obtain ⟨stored, -, -, hflips⟩ := hsilent.confirms
  exact hflips (by simp [h])

theorem late_invariant :
    SectionInvariant (fun _ ↦ True) fun _ s ↦ Since emmEnabled caidFilter ∅ s where
  frame := since_invariant.frame
  handleSection received s pid sec next h hwatch _ hnext :=
    since_invariant.handleSection received s pid sec next h hwatch
      (not_silentEsChange_of_joinedPids h.joinedPids) hnext
  settle := since_invariant.settle

theorem since_reset {s : SatipPSI} (hcfg : s.hasCfg = true) :
    Since s.tables.emmEnabled s.tables.caidFilter ∅ (reset s) := by
  refine ⟨(hasCfg_reset s).trans hcfg, ?_, ?_, ?_, Or.inr (fresh_recompute rfl)⟩ <;>
    rw [tables_reset] <;> rfl

/-- Joining pids brings the cached sets up to date again. -/
theorem Since.setJoinedPids {old : Finset ℕ} (h : Since emmEnabled caidFilter old s)
    (hdirty : s.tables.dirty = false) (pids : Finset ℕ) :
    Since emmEnabled caidFilter pids (setJoinedPids pids s) := by
  have hfresh : Fresh s := h.fresh.resolve_left (by simp [hdirty])
  refine ⟨(hasCfg_setJoinedPids pids s).trans h.hasCfg, ?_, ?_, ?_, Or.inr ?_⟩
  · rw [tables_setJoinedPids]
    exact h.emmEnabled
  · rw [tables_setJoinedPids]
    exact h.caidFilter
  · rw [tables_setJoinedPids]
  · unfold PSI.setJoinedPids
    split
    · exact fresh_recompute hdirty
    · exact hfresh

/-! ### The packets of the transponder -/

variable {sections : Finset (ℕ × List UInt8)}

/-- The sections are those of the transponder, and `parsePMT` misses nothing in them. -/
def Event.Faithful (sections : Finset (ℕ × List UInt8)) (event : Event) : Prop :=
  event.From (sections : Set (ℕ × List UInt8)) ∧ ¬ event.Misses

theorem Event.Faithful.not_silent {event : Event} (h : event.Faithful sections) :
    ¬ event.Silent := by
  intro hsilent
  cases event with
  | handleSection before pid sec => exact h.2 (Or.inl hsilent)
  | setCaPids pids => exact hsilent

theorem leftovers_invariant (hcarousel : Carousel (sections : Set (ℕ × List UInt8))) :
    SectionInvariant (Event.From (sections : Set (ℕ × List UInt8)))
      fun _ s ↦ s.tables.NoLeftovers sections where
  frame _ _ _ _ h := h
  handleSection _ s pid sec next h _ hsec hnext := by
    obtain ⟨tables, htables, rfl⟩ := exists_tables_of_handleSection hnext
    exact h.of_handleSection hcarousel hsec htables
  settle _ s h := by
    rw [tables_settle]
    exact ⟨h.pat, h.cat, h.emm⟩

/-- What holds while the packets of the transponder arrive. -/
structure Learning (emmEnabled : Bool) (caidFilter joinedPids : Finset ℕ)
    (sections : Finset (ℕ × List UInt8)) (s : SatipPSI) : Prop where
  since : Since emmEnabled caidFilter joinedPids s
  leftovers : s.tables.NoLeftovers sections

theorem learning_invariant (hcarousel : Carousel (sections : Set (ℕ × List UInt8))) :
    SectionInvariant (Event.Faithful sections)
      fun _ s ↦ Learning emmEnabled caidFilter joinedPids sections s where
  frame received s assembler tsPackets h :=
    ⟨since_invariant.frame received s assembler tsPackets h.since, h.leftovers⟩
  handleSection received s pid sec next h hwatch hok hnext :=
    ⟨since_invariant.handleSection received s pid sec next h.since hwatch hok.not_silent hnext,
      (leftovers_invariant hcarousel).handleSection received s pid sec next h.leftovers hwatch
        hok.1 hnext⟩
  settle received s h :=
    ⟨since_invariant.settle received s h.since,
      (leftovers_invariant hcarousel).settle received s h.leftovers⟩

/-- The PMT sections received are what is known of their services. -/
def ShowsServices (received : List (ℕ × List UInt8)) (s : SatipPSI) : Prop :=
  ∀ pid sec, (pid, sec) ∈ received → pid ≠ psiPidPat → pid ≠ psiPidCat → s.tables.Shows pid sec

/-- What holds once the whole PAT of the transponder is known. -/
structure Complete (emmEnabled : Bool) (caidFilter joinedPids : Finset ℕ)
    (sections : Finset (ℕ × List UInt8)) (received : List (ℕ × List UInt8)) (s : SatipPSI) :
    Prop where
  learning : Learning emmEnabled caidFilter joinedPids sections s
  own : ∀ x ∈ received, x ∈ (sections : Set (ℕ × List UInt8))
  knows : Knows (sections : Set (ℕ × List UInt8)) received s
  services : ShowsServices received s

theorem complete_invariant (htransponder : Transponder caidFilter sections) :
    SectionInvariant (Event.Faithful sections)
      (Complete emmEnabled caidFilter joinedPids sections) where
  frame received s assembler tsPackets h :=
    ⟨(learning_invariant htransponder.carousel).frame received s assembler tsPackets h.learning,
      h.own, h.knows, h.services⟩
  handleSection received s pid sec next h hwatch hok hnext := by
    have hlearning := (learning_invariant htransponder.carousel).handleSection received s pid sec
      next h.learning hwatch hok hnext
    obtain ⟨hreceived, hknows⟩ := (knows_invariant htransponder.carousel).handleSection received s
      pid sec next ⟨h.own, h.knows⟩ hwatch hok.1 hnext
    refine ⟨hlearning, hreceived, hknows, fun otherPid other hmem hpat hcat ↦ ?_⟩
    obtain ⟨tables, htables, rfl⟩ := exists_tables_of_handleSection hnext
    have hsec : (pid, sec) ∈ sections := hok.1
    have hother : (otherPid, other) ∈ sections := hreceived _ hmem
    by_cases hsame : otherPid = pid
    · -- The only PMT section on this pid is the one that was just handled.
      subst hsame
      obtain rfl := htransponder.carousel.pmt otherPid other sec hpat hcat hother hsec
      have hservice := htransponder.readable otherPid other hsec hpat hcat
      rw [← h.learning.since.caidFilter] at hservice
      exact Tables.shows_of_handleSection (htransponder.carousel.isTable _ _ hsec) hpat hcat
        hservice (fun hskip ↦ hok.2 (Or.inr hskip)) htables
    · have hearlier : (otherPid, other) ∈ received := by
        rcases List.mem_append.mp hmem with hearlier | hlast
        · exact hearlier
        · exact absurd (Prod.mk.inj (List.mem_singleton.mp hlast)).1 hsame
      exact (h.services otherPid other hearlier hpat hcat).of_handleSection htransponder.carousel
        h.knows.1 hsec hsame htables
  settle received s h := by
    obtain ⟨hreceived, hknows⟩ := (knows_invariant htransponder.carousel).settle received s
      ⟨h.own, h.knows⟩
    refine ⟨(learning_invariant htransponder.carousel).settle received s h.learning, hreceived,
      hknows, fun pid sec hmem hpat hcat ↦ ?_⟩
    rw [tables_settle]
    exact h.services pid sec hmem hpat hcat

/-- Once every PAT section and then every other section of the transponder that the parser watches
for was received, the set is the one that belongs to the transponder. -/
theorem Complete.derivedPids_eq {received : List (ℕ × List UInt8)}
    (htransponder : Transponder caidFilter sections)
    (h : Complete emmEnabled caidFilter joinedPids sections received s)
    (hdirty : s.tables.dirty = false)
    (hall : ∀ pid sec, (pid, sec) ∈ sections → pid ≠ psiPidPat → pid ∈ s.watchedPids →
      (pid, sec) ∈ received) :
    s.derivedPids = (ofSections emmEnabled caidFilter joinedPids sections).caPids := by
  obtain ⟨⟨⟨-, hemm, hfilter, hjoined, hfresh⟩, hleft⟩, -, ⟨hpat, hentered⟩, hservices⟩ := h
  have hfresh : Fresh s := hfresh.resolve_left (by simp [hdirty])
  subst hemm hfilter hjoined
  rw [hfresh.derivedPids]
  have hwatch : ∀ pid, pid ∈ s.watchedPids ↔ pid ∈ s.tables.watchSet := by
    rw [hfresh.watchedPids]
    exact fun pid ↦ Iff.rfl
  have hcat : s.tables.emmEnabled = true → ∀ sec, (psiPidCat, sec) ∈ sections →
      s.tables.CatEntered sec := by
    intro henabled sec hsec
    have hwatched : psiPidCat ∈ s.watchedPids := by
      rw [hwatch]
      simp [Tables.watchSet, henabled]
    have hknown := hentered _ _ (hall _ _ hsec (by decide) hwatched)
    rwa [Tables.Entered, if_neg (by decide), if_pos rfl] at hknown
  have hlisted : s.tables.patPmtPids = Tables.patPmtPidsOf sections :=
    Tables.patPmtPids_eq htransponder.pat hleft hpat
  apply Tables.caPids_eq_ofSections htransponder hleft hpat hcat
  intro pid hpid sec hsec
  obtain ⟨hpidpat, hpidcat, -⟩ := htransponder.service pid hpid
  have hwatched : pid ∈ s.watchedPids := by
    rw [hwatch, Tables.watchSet, hlisted]
    exact Finset.mem_union_right _ hpid
  exact hservices pid sec (hall pid sec hsec hpidpat hwatched) hpidpat hpidcat

/-- After a retune, whatever late packets of another transponder came in between: once every PAT
section and then every other section of the new transponder was received, the set last reported
belongs to the new transponder and the joined pids, provided that nothing of the late packets was
kept as a part of its PAT or CAT and that `parsePMT` missed nothing in its sections. -/
theorem retune_isolated {s s₁ s₂ s₃ : SatipPSI} {late first second : List (ℕ × List UInt8)}
    (hs : Reachable s) (hcfg : s.hasCfg = true)
    (htransponder : Transponder s.tables.caidFilter sections)
    (hlate : Receives (reset s) late s₁)
    (hfirst : Receives (setJoinedPids joinedPids s₁) first s₂)
    (hfirstof : ∀ x ∈ first, x ∈ sections)
    (hpat : ∀ sec, (psiPidPat, sec) ∈ sections → (psiPidPat, sec) ∈ first)
    (hsecond : Receives s₂ second s₃) (hsecondof : ∀ x ∈ second, x ∈ sections)
    (hrest : ∀ pid sec, (pid, sec) ∈ sections → pid ≠ psiPidPat → pid ∈ s₃.watchedPids →
      (pid, sec) ∈ second)
    (hleft : s₁.tables.NoLeftovers sections)
    (hmisses : MissesNothing (newEvents (setJoinedPids joinedPids s₁) s₃)) :
    lastReport s₃.trace =
      (ofSections s.tables.emmEnabled s.tables.caidFilter joinedPids sections).caPids := by
  have hcarousel := htransponder.carousel
  have hreset : Reachable (reset s) := hs.step .reset rfl
  have hs₁ : Reachable s₁ := hlate.reachable hreset
  have hjoined : Reachable (setJoinedPids joinedPids s₁) :=
    hs₁.step (.setJoinedPids joinedPids) rfl
  have hs₂ : Reachable s₂ := hfirst.reachable hjoined
  have hs₃ : Reachable s₃ := hsecond.reachable hs₂
  have hlatesince : Since s.tables.emmEnabled s.tables.caidFilter ∅ s₁ :=
    hlate.invariant late_invariant hreset (fun _ _ ↦ trivial) (since_reset hcfg)
  have hlearning : Learning s.tables.emmEnabled s.tables.caidFilter joinedPids sections
      (setJoinedPids joinedPids s₁) := by
    refine ⟨hlatesince.setJoinedPids hs₁.not_dirty joinedPids, ?_⟩
    rw [tables_setJoinedPids]
    exact ⟨hleft.pat, hleft.cat, hleft.emm⟩
  rw [newEvents_append hjoined hfirst hsecond] at hmisses
  have hfaithful₁ : ∀ event ∈ newEvents (setJoinedPids joinedPids s₁) s₂,
      event.Faithful sections := fun event hevent ↦
    ⟨hfirst.from hjoined hfirstof event hevent,
      hmisses event (List.mem_append_left _ hevent)⟩
  have hfaithful₂ : ∀ event ∈ newEvents s₂ s₃, event.Faithful sections := fun event hevent ↦
    ⟨hsecond.from hs₂ hsecondof event hevent, hmisses event (List.mem_append_right _ hevent)⟩
  have hlearning₂ : Learning s.tables.emmEnabled s.tables.caidFilter joinedPids sections s₂ :=
    hfirst.invariant (learning_invariant hcarousel) hjoined hfaithful₁ hlearning
  have hknowspat : KnowsPat first s₂ :=
    (hfirst.invariant (knowsPat_invariant hcarousel) hjoined (hfirst.from hjoined hfirstof)
      ⟨by simp, fun _ hsec ↦ by simp at hsec⟩).2
  have hcomplete₂ : Complete s.tables.emmEnabled s.tables.caidFilter joinedPids sections [] s₂ :=
    ⟨hlearning₂, by simp, ⟨fun sec hsec ↦ hknowspat sec (hpat sec hsec),
      fun _ _ hsec ↦ by simp at hsec⟩, fun _ _ hsec ↦ by simp at hsec⟩
  have hcomplete₃ := hsecond.invariant (complete_invariant htransponder) hs₂ hfaithful₂ hcomplete₂
  rw [hs₃.reported hcomplete₃.learning.since.hasCfg]
  exact hcomplete₃.derivedPids_eq htransponder hs₃.not_dirty hrest

/-- A transponder with one service, on PMT pid 100. -/
def smallTransponder (pmt : List UInt8) : Finset (ℕ × List UInt8) := {(0, patSection), (100, pmt)}

theorem mem_smallTransponder {pmt : List UInt8} {pid : ℕ} {sec : List UInt8} :
    (pid, sec) ∈ smallTransponder pmt ↔ pid = 0 ∧ sec = patSection ∨ pid = 100 ∧ sec = pmt := by
  simp [smallTransponder]

theorem transponder_smallTransponder {pmt : List UInt8} (htable : Tables.IsTable pmt 0x02)
    (hread : ∃ contents, Tables.serviceIn ∅ pmt = some contents) :
    Transponder ∅ (smallTransponder pmt) := by
  have hone : ∀ pid sec other, (pid, sec) ∈ smallTransponder pmt →
      (pid, other) ∈ smallTransponder pmt → sec = other := by
    intro pid sec other h hother
    rcases mem_smallTransponder.mp h with ⟨rfl, rfl⟩ | ⟨rfl, rfl⟩ <;>
      rcases mem_smallTransponder.mp hother with ⟨hpid, rfl⟩ | ⟨hpid, rfl⟩
    all_goals first | rfl | cases hpid
  have hpat : (0, patSection) ∈ smallTransponder pmt := by simp [smallTransponder]
  have hpmt : (100, pmt) ∈ smallTransponder pmt := by simp [smallTransponder]
  refine ⟨⟨?_, ?_, ?_, ?_⟩, ⟨patSection, hpat⟩, ?_, ?_⟩
  · intro pid sec h
    rcases mem_smallTransponder.mp h with ⟨rfl, rfl⟩ | ⟨rfl, rfl⟩
    · decide +kernel
    · exact htable
  · exact fun pid sec other _ h hother ↦ by rw [hone pid sec other h hother]
  · exact fun pid sec other _ h hother _ ↦ hone pid sec other h hother
  · exact fun pid sec other _ _ h hother ↦ hone pid sec other h hother
  · intro pid hpid
    have hlisted : Tables.patPmtPidsOf (smallTransponder pmt) = {100} :=
      Tables.unionOf_eq hpat (by decide +kernel) fun other hother ↦ hone _ _ _ hother hpat
    rw [hlisted, Finset.mem_singleton] at hpid
    subst hpid
    exact ⟨by decide, by decide, pmt, hpmt⟩
  · intro pid sec h hpidpat _
    rcases mem_smallTransponder.mp h with ⟨rfl, rfl⟩ | ⟨rfl, rfl⟩
    · exact absurd rfl hpidpat
    · exact hread

/-- The PMT of another transponder on the same pid, of the same version and with the same elementary
stream, but with ECM pid 600. -/
def otherPmtSection : List UInt8 :=
  [2, 176, 24, 0, 1, 193, 0, 0, 225, 1, 240, 6, 9, 4, 24, 51, 226, 88, 2, 224, 101, 240, 0, 118,
    172, 137, 193]

/-- The same PAT and PMT with version 1. -/
def laterPatSection : List UInt8 := [0, 176, 13, 0, 1, 195, 0, 0, 0, 1, 224, 100, 27, 239, 255, 200]

def laterPmtSection : List UInt8 :=
  [2, 176, 24, 0, 1, 195, 0, 0, 225, 1, 240, 6, 9, 4, 24, 51, 226, 88, 2, 224, 101, 240, 0, 112,
    162, 56, 156]

/-- Late packets with this PAT and PMT, then the packets of the transponder with the scrambled
service, a pid of which is joined. -/
theorem receives_late {latePat latePmt : List UInt8} {s₁ s₂ s₃ : SatipPSI}
    (hs₁ : processTS (packetOf 0 latePat ++ packetOf 100 latePmt)
      (reset (construct true false ∅)) = some s₁)
    (hs₂ : processTS (packetOf 0 patSection) (setJoinedPids {101} s₁) = some s₂)
    (hs₃ : processTS (packetOf 100 scrambledPmtSection) s₂ = some s₃)
    (hlate : handed s₁.trace = [(0, latePat), (100, latePmt)])
    (hhanded₂ : handed s₂.trace = [(0, latePat), (100, latePmt), (0, patSection)])
    (hhanded₃ : handed s₃.trace =
      [(0, latePat), (100, latePmt), (0, patSection), (100, scrambledPmtSection)]) :
    Receives (reset (construct true false ∅)) [(0, latePat), (100, latePmt)] s₁ ∧
      Receives (setJoinedPids {101} s₁) [(0, patSection)] s₂ ∧
      Receives s₂ [(100, scrambledPmtSection)] s₃ := by
  have hjoin : handed (setJoinedPids {101} s₁).trace = handed s₁.trace := by
    unfold setJoinedPids
    split
    · exact handed_recompute _
    · rfl
  refine ⟨⟨[_], by rw [List.map_singleton, Runs.run_cons, step, hs₁]; rfl, hlate⟩,
    ⟨[_], by rw [List.map_singleton, Runs.run_cons, step, hs₂]; rfl, ?_⟩,
    ⟨[_], by rw [List.map_singleton, Runs.run_cons, step, hs₃]; rfl, ?_⟩⟩
  · rw [hhanded₂, hjoin, hlate]
    rfl
  · rw [hhanded₃, hhanded₂]
    rfl

/-- The packets of the transponder carry all its sections, in order. -/
theorem forall_smallTransponder (pmt : List UInt8) :
    (∀ x ∈ [(0, patSection)], x ∈ smallTransponder pmt) ∧
      (∀ sec, (psiPidPat, sec) ∈ smallTransponder pmt → (psiPidPat, sec) ∈ [(0, patSection)]) ∧
      (∀ x ∈ [(100, pmt)], x ∈ smallTransponder pmt) ∧
      ∀ pid sec, (pid, sec) ∈ smallTransponder pmt → pid ≠ psiPidPat →
        (pid, sec) ∈ [(100, pmt)] := by
  refine ⟨by simp [smallTransponder], ?_, by simp [smallTransponder], ?_⟩
  · intro sec hsec
    rcases mem_smallTransponder.mp hsec with ⟨-, rfl⟩ | ⟨hpid, -⟩
    · exact List.mem_singleton.mpr rfl
    · cases hpid
  · intro pid sec hsec hpid
    rcases mem_smallTransponder.mp hsec with ⟨rfl, -⟩ | ⟨rfl, rfl⟩
    · exact absurd rfl hpid
    · exact List.mem_singleton.mpr rfl

/-- The late PMT has the version that the PMT of the new transponder has, which is then skipped. -/
theorem not_retune_isolated :
    ¬ ∀ s s₁ s₂ s₃ joinedPids late first second left sections, Reachable s → s.hasCfg = true →
      Transponder s.tables.caidFilter left → Transponder s.tables.caidFilter sections →
      Receives (reset s) late s₁ → (∀ x ∈ late, x ∈ left) →
      Receives (setJoinedPids joinedPids s₁) first s₂ → (∀ x ∈ first, x ∈ sections) →
      (∀ sec, (psiPidPat, sec) ∈ sections → (psiPidPat, sec) ∈ first) →
      Receives s₂ second s₃ → (∀ x ∈ second, x ∈ sections) →
      (∀ pid sec, (pid, sec) ∈ sections → pid ≠ psiPidPat → (pid, sec) ∈ second) →
        lastReport s₃.trace =
          (ofSections s.tables.emmEnabled s.tables.caidFilter joinedPids sections).caPids := by
  intro h
  have hruns : ((processTS (packetOf 0 patSection ++ packetOf 100 otherPmtSection)
      (reset (construct true false ∅))).bind fun s₁ ↦
        (processTS (packetOf 0 patSection) (setJoinedPids {101} s₁)).bind fun s₂ ↦
          (processTS (packetOf 100 scrambledPmtSection) s₂).map fun s₃ ↦
            decide (handed s₁.trace = [(0, patSection), (100, otherPmtSection)] ∧
              handed s₂.trace = [(0, patSection), (100, otherPmtSection), (0, patSection)] ∧
              handed s₃.trace = [(0, patSection), (100, otherPmtSection), (0, patSection),
                (100, scrambledPmtSection)] ∧
              lastReport s₃.trace = {0, 100, 600})) = some true := by
    decide +kernel
  obtain ⟨s₁, hs₁, hruns⟩ := Option.bind_eq_some_iff.mp hruns
  obtain ⟨s₂, hs₂, hruns⟩ := Option.bind_eq_some_iff.mp hruns
  obtain ⟨s₃, hs₃, hfields⟩ := Option.map_eq_some_iff.mp hruns
  obtain ⟨hhanded₁, hhanded₂, hhanded₃, hreport⟩ := of_decide_eq_true hfields
  obtain ⟨hlate, hfirst, hsecond⟩ := receives_late hs₁ hs₂ hs₃ hhanded₁ hhanded₂ hhanded₃
  have hreach : Reachable (construct true false ∅) :=
    ⟨true, false, ∅, Runs.Reachable.refl step _⟩
  have hother : Transponder ∅ (smallTransponder otherPmtSection) :=
    transponder_smallTransponder (by decide +kernel) ⟨({600}, {101}), by decide +kernel⟩
  have hscrambled : Transponder ∅ (smallTransponder scrambledPmtSection) :=
    transponder_smallTransponder (by decide +kernel) ⟨({500}, {101}), by decide +kernel⟩
  obtain ⟨hfirstof, hpat, hsecondof, hrest⟩ := forall_smallTransponder scrambledPmtSection
  have hequal := h _ s₁ s₂ s₃ {101} _ _ _ _ _ hreach rfl hother hscrambled hlate
    (by simp [smallTransponder]) hfirst hfirstof hpat hsecond hsecondof hrest
  rw [hreport] at hequal
  revert hequal
  decide +kernel

theorem retune_isolated_laterPmtSection :
    ∃ s₁ s₂ s₃, processTS (packetOf 0 laterPatSection ++ packetOf 100 laterPmtSection)
        (reset (construct true false ∅)) = some s₁ ∧
      processTS (packetOf 0 patSection) (setJoinedPids {101} s₁) = some s₂ ∧
      processTS (packetOf 100 scrambledPmtSection) s₂ = some s₃ ∧
      lastReport s₃.trace =
        (ofSections false ∅ {101} (smallTransponder scrambledPmtSection)).caPids := by
  have hruns : ((processTS (packetOf 0 laterPatSection ++ packetOf 100 laterPmtSection)
      (reset (construct true false ∅))).bind fun s₁ ↦
        (processTS (packetOf 0 patSection) (setJoinedPids {101} s₁)).bind fun s₂ ↦
          (processTS (packetOf 100 scrambledPmtSection) s₂).map fun s₃ ↦
            decide (handed s₁.trace = [(0, laterPatSection), (100, laterPmtSection)] ∧
              handed s₂.trace = [(0, laterPatSection), (100, laterPmtSection), (0, patSection)] ∧
              handed s₃.trace = [(0, laterPatSection), (100, laterPmtSection), (0, patSection),
                (100, scrambledPmtSection)] ∧
              s₁.tables.patVersion = some 1 ∧ s₁.tables.emmEnabled = false ∧
              MissesNothing (newEvents (setJoinedPids {101} s₁) s₃))) = some true := by
    decide +kernel
  obtain ⟨s₁, hs₁, hruns⟩ := Option.bind_eq_some_iff.mp hruns
  obtain ⟨s₂, hs₂, hruns⟩ := Option.bind_eq_some_iff.mp hruns
  obtain ⟨s₃, hs₃, hfields⟩ := Option.map_eq_some_iff.mp hruns
  obtain ⟨hhanded₁, hhanded₂, hhanded₃, hversion, hemm, hmisses⟩ := of_decide_eq_true hfields
  obtain ⟨hlate, hfirst, hsecond⟩ := receives_late hs₁ hs₂ hs₃ hhanded₁ hhanded₂ hhanded₃
  have hreach : Reachable (construct true false ∅) :=
    ⟨true, false, ∅, Runs.Reachable.refl step _⟩
  have hscrambled : Transponder ∅ (smallTransponder scrambledPmtSection) :=
    transponder_smallTransponder (by decide +kernel) ⟨({500}, {101}), by decide +kernel⟩
  have hleft : s₁.tables.NoLeftovers (smallTransponder scrambledPmtSection) := by
    refine ⟨fun first number pids hmem hknown ↦ ?_, fun henabled ↦ ?_, fun henabled ↦ ?_⟩
    · rcases mem_smallTransponder.mp hmem with ⟨-, rfl⟩ | ⟨hpid, -⟩
      · rw [hversion] at hknown
        exact absurd hknown (by decide)
      · cases hpid
    · rw [hemm] at henabled
      cases henabled
    · rw [hemm] at henabled
      cases henabled
  obtain ⟨hfirstof, hpat, hsecondof, hrest⟩ := forall_smallTransponder scrambledPmtSection
  have hset := retune_isolated hreach rfl hscrambled hlate hfirst hfirstof hpat hsecond hsecondof
    (fun pid sec hsec hne _ ↦ hrest pid sec hsec hne) hleft hmisses
  exact ⟨s₁, s₂, s₃, hs₁, hs₂, hs₃, hset⟩

end SatipClient.PSI
