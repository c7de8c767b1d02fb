import SatipClient.PSI.Receiving

/-!
# Tables that repeat

A transponder sends its tables over and over.  A section that was entered in the tables changes
nothing when it is received again (`handleSection_of_entered`), and the sections of one carousel
leave each other alone, the PMT sections from the moment on at which the whole PAT is known.  So
once every section was received, nothing that is derived from them changes any more, and nothing
is reported (`carousel_stable`).
-/

namespace SatipClient.PSI

open Checked
open Tables (IsTable versionOf patProgramsFrom collectCaDescriptors sectionUnion)

namespace Tables

variable {t t' : Tables} {pid : ℕ} {sec other : List UInt8}

/-! ## Sections that were entered -/

/-- The PAT section is among those that are known. -/
def PatEntered (t : Tables) (sec : List UInt8) : Prop :=
  ∃ flags number pids, byteAt sec 5 = some flags ∧ byteAt sec 6 = some number ∧
    patProgramsFrom sec 8 ∅ = some pids ∧ t.patVersion = some (versionOf flags) ∧
    t.patSections number = some pids ∧ t.patPmtPids = sectionUnion t.patSections

/-- The CAT section is among those that are known. -/
def CatEntered (t : Tables) (sec : List UInt8) : Prop :=
  ∃ flags number descriptors pids, byteAt sec 5 = some flags ∧ byteAt sec 6 = some number ∧
    slice sec 8 (sec.length - 4 - 8) = some descriptors ∧
    collectCaDescriptors t.caidFilter descriptors ∅ = some pids ∧
    t.catVersion = some (versionOf flags) ∧ t.catSections number = some pids ∧
    t.emmPids = sectionUnion t.catSections

/-- There is nothing in the PMT section that is not known of the service already. -/
def PmtEntered (t : Tables) (pid : ℕ) (sec : List UInt8) : Prop :=
  (∃ info, t.pmt pid = some info) ∧ t.pmtStored pid sec = none

/-- The section was entered. -/
def Entered (t : Tables) (pid : ℕ) (sec : List UInt8) : Prop :=
  if pid = psiPidPat then t.PatEntered sec
  else if pid = psiPidCat then t.CatEntered sec
  else t.PmtEntered pid sec

/-! ### PAT -/

theorem patEntered_of_parsePAT (h : parsePAT sec t = some t') : t'.PatEntered sec := by
  obtain ⟨flags, number, pids, hflags, hnumber, hpids, rfl⟩ := parsePAT_cases h
  refine ⟨flags, number, pids, hflags, hnumber, hpids, rfl, ?_, rfl⟩
  exact Function.update_self number _ _

theorem PatEntered.parsePAT_eq (h : t.PatEntered sec) (hparse : parsePAT sec t = some t') :
    t' = t := by
  obtain ⟨flags, number, pids, hflags, hnumber, hpids, hversion, hsection, hunion⟩ := h
  obtain ⟨flags', number', pids', hflags', hnumber', hpids', rfl⟩ := parsePAT_cases hparse
  obtain rfl := Option.some.inj (hflags.symm.trans hflags')
  obtain rfl := Option.some.inj (hnumber.symm.trans hnumber')
  obtain rfl := Option.some.inj (hpids.symm.trans hpids')
  have henter : enter t.patVersion t.patSections (versionOf flags) number pids = t.patSections := by
    rw [enter, sectionsFor, if_pos hversion, ← hsection, Function.update_eq_self]
  simp [withPatSection, henter, ← hunion, ← hversion]

/-- Another section of the same version takes another place. -/
theorem PatEntered.keep (h : t.PatEntered sec)
    (hversion : (byteAt sec 5).map versionOf = (byteAt other 5).map versionOf)
    (hnumber : byteAt sec 6 = byteAt other 6 → sec = other)
    (hparse : parsePAT other t = some t') : t'.PatEntered sec := by
  obtain ⟨flags, number, pids, hflags, hnum, hpids, hknown, hsection, _⟩ := h
  obtain ⟨flags', number', pids', hflags', hnum', hpids', rfl⟩ := parsePAT_cases hparse
  rw [hflags, hflags', Option.map_some, Option.map_some, Option.some_inj] at hversion
  refine ⟨flags, number, pids, hflags, hnum, hpids, congrArg some hversion.symm, ?_, rfl⟩
  change enter t.patVersion t.patSections (versionOf flags') number' pids' number = some pids
  rw [enter, sectionsFor, if_pos (hknown.trans (congrArg some hversion))]
  by_cases hsame : number = number'
  · subst hsame
    obtain rfl := hnumber (hnum.trans hnum'.symm)
    obtain rfl := Option.some.inj (hpids.symm.trans hpids')
    exact Function.update_self number _ _
  · rw [Function.update_of_ne hsame]
    exact hsection

/-! ### CAT -/

theorem catEntered_of_parseCAT (h : parseCAT sec t = some t') : t'.CatEntered sec := by
  obtain ⟨flags, number, descriptors, pids, hflags, hnumber, hdescriptors, hpids, rfl⟩ :=
    parseCAT_cases h
  refine ⟨flags, number, descriptors, pids, hflags, hnumber, hdescriptors, hpids, rfl, ?_, rfl⟩
  exact Function.update_self number _ _

theorem CatEntered.parseCAT_eq (h : t.CatEntered sec) (hparse : parseCAT sec t = some t') :
    t' = t := by
  obtain ⟨flags, number, descriptors, pids, hflags, hnumber, hdescriptors, hpids, hversion,
    hsection, hunion⟩ := h
  obtain ⟨flags', number', descriptors', pids', hflags', hnumber', hdescriptors', hpids', rfl⟩ :=
    parseCAT_cases hparse
  obtain rfl := Option.some.inj (hflags.symm.trans hflags')
  obtain rfl := Option.some.inj (hnumber.symm.trans hnumber')
  obtain rfl := Option.some.inj (hdescriptors.symm.trans hdescriptors')
  obtain rfl := Option.some.inj (hpids.symm.trans hpids')
  have henter : enter t.catVersion t.catSections (versionOf flags) number pids = t.catSections := by
    rw [enter, sectionsFor, if_pos hversion, ← hsection, Function.update_eq_self]
  simp [withCatSection, henter, ← hunion, ← hversion]

theorem CatEntered.keep (h : t.CatEntered sec)
    (hversion : (byteAt sec 5).map versionOf = (byteAt other 5).map versionOf)
    (hnumber : byteAt sec 6 = byteAt other 6 → sec = other)
    (hparse : parseCAT other t = some t') : t'.CatEntered sec := by
  obtain ⟨flags, number, descriptors, pids, hflags, hnum, hdescriptors, hpids, hknown, hsection,
    _⟩ := h
  obtain ⟨flags', number', descriptors', pids', hflags', hnum', hdescriptors', hpids', rfl⟩ :=
    parseCAT_cases hparse
  rw [hflags, hflags', Option.map_some, Option.map_some, Option.some_inj] at hversion
  refine ⟨flags, number, descriptors, pids, hflags, hnum, hdescriptors, hpids,
    congrArg some hversion.symm, ?_, rfl⟩
  change enter t.catVersion t.catSections (versionOf flags') number' pids' number = some pids
  rw [enter, sectionsFor, if_pos (hknown.trans (congrArg some hversion))]
  by_cases hsame : number = number'
  · subst hsame
    obtain rfl := hnumber (hnum.trans hnum'.symm)
    obtain rfl := Option.some.inj (hdescriptors.symm.trans hdescriptors')
    obtain rfl := Option.some.inj (hpids.symm.trans hpids')
    exact Function.update_self number _ _
  · rw [Function.update_of_ne hsame]
    exact hsection

/-! ### PMT -/

theorem pmtStored_congr (hversion : (t'.infoOf pid).version = (t.infoOf pid).version)
    (hfilter : t'.caidFilter = t.caidFilter) : t'.pmtStored pid sec = t.pmtStored pid sec := by
  simp only [pmtStored, hversion, hfilter]

theorem pmtEntered_of_parsePMT (h : parsePMT pid sec t = some t') : t'.PmtEntered pid sec := by
  rcases parsePMT_cases h with ⟨hnone, rfl⟩ | ⟨version, ecmPids, esPids, hstored, rfl⟩
  · have hinfo : (t.withPmtEntry pid).pmt pid = some (t.infoOf pid) := Function.update_self ..
    refine ⟨⟨_, hinfo⟩, ?_⟩
    rw [← hnone]
    exact pmtStored_congr (congrArg PmtInfo.version (infoOf_of_pmt hinfo)) rfl
  · obtain ⟨flags, lengthHigh, lengthLow, hflags, -, -, rfl, -, -⟩ := reads_of_pmtStored hstored
    have hinfo : (t.withPmtSection pid (versionOf flags) ecmPids esPids).pmt pid =
        some ⟨some (versionOf flags), ecmPids, esPids⟩ := Function.update_self ..
    exact ⟨⟨_, hinfo⟩, pmtStored_eq_none hflags (Or.inl (by rw [infoOf_of_pmt hinfo]))⟩

theorem PmtEntered.parsePMT_eq (h : t.PmtEntered pid sec) (hparse : parsePMT pid sec t = some t') :
    t' = t := by
  obtain ⟨⟨info, hinfo⟩, hstored⟩ := h
  rcases parsePMT_cases hparse with ⟨-, rfl⟩ | ⟨version, ecmPids, esPids, hnew, _⟩
  · have hsame : Function.update t.pmt pid (some (t.infoOf pid)) = t.pmt := by
      rw [infoOf_of_pmt hinfo, ← hinfo, Function.update_eq_self]
    rw [withPmtEntry, hsame]
  · rw [hstored] at hnew
    cases hnew

/-! ### Any section -/

/-- The table id that belongs to a pid. -/
def tableOf (pid : ℕ) : ℕ :=
  if pid = psiPidPat then 0x00 else if pid = psiPidCat then 0x01 else 0x02

/-- A section of the table that belongs to its pid reaches the parser of that table. -/
theorem handleSection_of_tableOf (htable : IsTable sec (tableOf pid)) (t : Tables) :
    handleSection pid sec t =
      if pid = psiPidPat then parsePAT sec t.countSection
      else if pid = psiPidCat then parseCAT sec t.countSection
      else parsePMT pid sec t.countSection := by
  rw [handleSection_of_isTable htable]
  simp only [dispatch, htable.tableId_eq, Option.bind_eq_bind, Option.bind_some, tableOf]
  split_ifs <;> first | rfl | contradiction

theorem entered_of_handleSection (htable : IsTable sec (tableOf pid))
    (h : handleSection pid sec t = some t') : t'.Entered pid sec := by
  rw [handleSection_of_tableOf htable] at h
  unfold Entered
  split_ifs at h ⊢
  · exact patEntered_of_parsePAT h
  · exact catEntered_of_parseCAT h
  · exact pmtEntered_of_parsePMT h

/-- A section that was entered changes nothing when it comes again, except that it is counted. -/
theorem handleSection_of_entered (htable : IsTable sec (tableOf pid)) (hentered : t.Entered pid sec)
    (h : handleSection pid sec t = some t') : t' = t.countSection := by
  rw [handleSection_of_tableOf htable] at h
  unfold Entered at hentered
  split_ifs at h hentered
  · exact PatEntered.parsePAT_eq (t := t.countSection) hentered h
  · exact CatEntered.parseCAT_eq (t := t.countSection) hentered h
  · exact PmtEntered.parsePMT_eq (t := t.countSection) hentered h

/-! ## The sections of a carousel -/

/-- Sections with their pids, as a transponder repeats them: every one is complete and current,
the PAT has one version and numbers its sections, so does the CAT, and there is one PMT section
per PMT pid. -/
structure Carousel (sections : Set (ℕ × List UInt8)) : Prop where
  isTable : ∀ pid sec, (pid, sec) ∈ sections → IsTable sec (tableOf pid)
  version : ∀ pid sec other, pid = psiPidPat ∨ pid = psiPidCat → (pid, sec) ∈ sections →
    (pid, other) ∈ sections → (byteAt sec 5).map versionOf = (byteAt other 5).map versionOf
  number : ∀ pid sec other, pid = psiPidPat ∨ pid = psiPidCat → (pid, sec) ∈ sections →
    (pid, other) ∈ sections → byteAt sec 6 = byteAt other 6 → sec = other
  pmt : ∀ pid sec other, pid ≠ psiPidPat → pid ≠ psiPidCat → (pid, sec) ∈ sections →
    (pid, other) ∈ sections → sec = other

variable {sections : Set (ℕ × List UInt8)} {otherPid : ℕ}

/-- A PAT section stays entered whatever else the carousel brings. -/
theorem PatEntered.of_handleSection (h : t.PatEntered sec) (hcarousel : Carousel sections)
    (hsec : (psiPidPat, sec) ∈ sections) (hother : (otherPid, other) ∈ sections)
    (hhandle : handleSection otherPid other t = some t') : t'.PatEntered sec := by
  rw [handleSection_of_tableOf (hcarousel.isTable _ _ hother)] at hhandle
  split_ifs at hhandle with hpat hcat
  · subst hpat
    exact PatEntered.keep (t := t.countSection) h
      (hcarousel.version _ _ _ (Or.inl rfl) hsec hother)
      (hcarousel.number _ _ _ (Or.inl rfl) hsec hother) hhandle
  · obtain ⟨flags, number, descriptors, pids, -, -, -, -, rfl⟩ := parseCAT_cases hhandle
    exact h
  · rcases parsePMT_cases hhandle with ⟨-, rfl⟩ | ⟨version, ecmPids, esPids, -, rfl⟩
    · exact h
    · exact h

/-- So does a CAT section. -/
theorem CatEntered.of_handleSection (h : t.CatEntered sec) (hcarousel : Carousel sections)
    (hsec : (psiPidCat, sec) ∈ sections) (hother : (otherPid, other) ∈ sections)
    (hhandle : handleSection otherPid other t = some t') : t'.CatEntered sec := by
  rw [handleSection_of_tableOf (hcarousel.isTable _ _ hother)] at hhandle
  split_ifs at hhandle with hpat hcat
  · obtain ⟨flags, number, pids, -, -, -, rfl⟩ := parsePAT_cases hhandle
    exact h
  · subst hcat
    exact CatEntered.keep (t := t.countSection) h
      (hcarousel.version _ _ _ (Or.inr rfl) hsec hother)
      (hcarousel.number _ _ _ (Or.inr rfl) hsec hother) hhandle
  · rcases parsePMT_cases hhandle with ⟨-, rfl⟩ | ⟨version, ecmPids, esPids, -, rfl⟩
    · exact h
    · exact h

/-- A PMT section leaves the entry of another service alone. -/
theorem PmtEntered.of_parsePMT (h : t.PmtEntered pid sec) (hne : pid ≠ otherPid)
    (hparse : parsePMT otherPid other t = some t') : t'.PmtEntered pid sec := by
  obtain ⟨⟨info, hinfo⟩, hstored⟩ := h
  obtain ⟨hpmt, hfilter⟩ := parsePMT_frame hne hparse
  refine ⟨⟨info, hpmt.trans hinfo⟩, ?_⟩
  rw [← hstored]
  exact pmtStored_congr (by rw [infoOf, infoOf, hpmt]) hfilter

/-- Once the whole PAT is known, every section stays entered.  Before that, a PAT section may
still drop the entry of a service that another one lists. -/
theorem Entered.of_handleSection (h : t.Entered pid sec) (hcarousel : Carousel sections)
    (hpat : ∀ sec, (psiPidPat, sec) ∈ sections → t.PatEntered sec) (hsec : (pid, sec) ∈ sections)
    (hother : (otherPid, other) ∈ sections)
    (hhandle : handleSection otherPid other t = some t') : t'.Entered pid sec := by
  have htable := hcarousel.isTable _ _ hother
  unfold Entered at h ⊢
  split_ifs at h ⊢ with hpidpat hpidcat
  · subst hpidpat
    exact h.of_handleSection hcarousel hsec hother hhandle
  · subst hpidcat
    exact h.of_handleSection hcarousel hsec hother hhandle
  · by_cases hother0 : otherPid = psiPidPat
    · subst hother0
      obtain rfl := handleSection_of_entered htable (hpat other hother) hhandle
      exact h
    by_cases hother1 : otherPid = psiPidCat
    · rw [handleSection_of_tableOf htable, if_neg hother0, if_pos hother1] at hhandle
      obtain ⟨flags, number, descriptors, pids, -, -, -, -, rfl⟩ := parseCAT_cases hhandle
      exact h
    rw [handleSection_of_tableOf htable, if_neg hother0, if_neg hother1] at hhandle
    by_cases hsame : pid = otherPid
    · subst hsame
      obtain rfl := hcarousel.pmt pid sec other hpidpat hpidcat hsec hother
      exact pmtEntered_of_parsePMT hhandle
    · exact PmtEntered.of_parsePMT (t := t.countSection) h hsame hhandle

end Tables

/-! ## The three phases -/

variable {sections : Set (ℕ × List UInt8)}

/-- The PAT sections received so far are known. -/
def KnowsPat (received : List (ℕ × List UInt8)) (s : SatipPSI) : Prop :=
  ∀ sec, (psiPidPat, sec) ∈ received → s.tables.PatEntered sec

/-- The whole PAT is known, and so is every section received so far. -/
def Knows (sections : Set (ℕ × List UInt8)) (received : List (ℕ × List UInt8)) (s : SatipPSI) :
    Prop :=
  (∀ sec, (psiPidPat, sec) ∈ sections → s.tables.PatEntered sec) ∧
    ∀ pid sec, (pid, sec) ∈ received → s.tables.Entered pid sec

/-- Everything but the statistics and the assemblers is as it was. -/
structure Unmoved (s₀ s : SatipPSI) : Prop where
  tables : s.tables = { s₀.tables with sections := s.tables.sections }
  watchedPids : s.watchedPids = s₀.watchedPids
  derivedPids : s.derivedPids = s₀.derivedPids
  reports : reports s.trace = reports s₀.trace

theorem entered_settle (pid : ℕ) (sec : List UInt8) (s : SatipPSI) :
    (settle s).tables.Entered pid sec ↔ s.tables.Entered pid sec := by
  rw [tables_settle]
  exact Iff.rfl

theorem knowsPat_invariant (hcarousel : Tables.Carousel sections) :
    SectionInvariant (Event.From sections)
      (fun received s ↦ (∀ x ∈ received, x ∈ sections) ∧ KnowsPat received s) where
  frame _ _ _ _ h := h
  handleSection received s pid sec next h _ hsec hnext := by
    obtain ⟨tables, htables, rfl⟩ := exists_tables_of_handleSection hnext
    refine ⟨List.forall_mem_append.mpr ⟨h.1, List.forall_mem_singleton.mpr hsec⟩,
      fun other hother ↦ ?_⟩
    rcases List.mem_append.mp hother with hearlier | hlast
    · exact (h.2 other hearlier).of_handleSection hcarousel (h.1 _ hearlier) hsec htables
    · obtain ⟨rfl, rfl⟩ := Prod.mk.inj (List.mem_singleton.mp hlast)
      exact Tables.entered_of_handleSection (hcarousel.isTable _ _ hsec) htables
  settle received s h :=
    ⟨h.1, fun sec hsec ↦ (entered_settle psiPidPat sec s).mpr (h.2 sec hsec)⟩

theorem knows_invariant (hcarousel : Tables.Carousel sections) :
    SectionInvariant (Event.From sections)
      (fun received s ↦ (∀ x ∈ received, x ∈ sections) ∧ Knows sections received s) where
  frame _ _ _ _ h := h
  handleSection received s pid sec next h _ hsec hnext := by
    obtain ⟨tables, htables, rfl⟩ := exists_tables_of_handleSection hnext
    obtain ⟨hreceived, hpat, hentered⟩ := h
    refine ⟨List.forall_mem_append.mpr ⟨hreceived, List.forall_mem_singleton.mpr hsec⟩, ?_,
      fun other osec hother ↦ ?_⟩
    · intro other hother
      exact (hpat other hother).of_handleSection hcarousel hother hsec htables
    rcases List.mem_append.mp hother with hearlier | hlast
    · exact (hentered _ _ hearlier).of_handleSection hcarousel hpat (hreceived _ hearlier) hsec
        htables
    · obtain ⟨rfl, rfl⟩ := Prod.mk.inj (List.mem_singleton.mp hlast)
      exact Tables.entered_of_handleSection (hcarousel.isTable _ _ hsec) htables
  settle received s h :=
    ⟨h.1, fun sec hsec ↦ (entered_settle psiPidPat sec s).mpr (h.2.1 sec hsec),
      fun pid sec hsec ↦ (entered_settle pid sec s).mpr (h.2.2 pid sec hsec)⟩

theorem unmoved_invariant {s₀ : SatipPSI} (hcarousel : Tables.Carousel sections)
    (hdirty : s₀.tables.dirty = false)
    (hentered : ∀ pid sec, (pid, sec) ∈ sections → pid ∈ s₀.watchedPids →
      s₀.tables.Entered pid sec) :
    SectionInvariant (Event.From sections) (fun _ s ↦ Unmoved s₀ s) where
  frame _ _ _ _ h := ⟨h.tables, h.watchedPids, h.derivedPids, h.reports⟩
  handleSection received s pid sec next h hwatch hsec hnext := by
    obtain ⟨tables, htables, rfl⟩ := exists_tables_of_handleSection hnext
    have hknown : s.tables.Entered pid sec := by
      rw [h.tables]
      exact hentered pid sec hsec (h.watchedPids ▸ hwatch)
    obtain rfl := Tables.handleSection_of_entered (hcarousel.isTable _ _ hsec) hknown htables
    refine ⟨?_, h.watchedPids, h.derivedPids, ?_⟩
    · rw [Tables.countSection, h.tables]
    · rw [← h.reports]
      simp [reports]
  settle received s h := by
    have hclean : s.tables.dirty = false := by
      rw [h.tables]
      exact hdirty
    rwa [settle_of_not_dirty hclean]

/-- Once every PAT section and then every other section of a carousel that the parser watches for
was received, receiving more of them changes nothing that is derived from the tables and reports
nothing. -/
theorem carousel_stable {s₀ s₁ s₂ s₃ : SatipPSI} {first second further : List (ℕ × List UInt8)}
    (hcarousel : Tables.Carousel sections) (hs : Reachable s₀)
    (hfirst : Receives s₀ first s₁) (hfirstof : ∀ x ∈ first, x ∈ sections)
    (hpat : ∀ sec, (psiPidPat, sec) ∈ sections → (psiPidPat, sec) ∈ first)
    (hsecond : Receives s₁ second s₂) (hsecondof : ∀ x ∈ second, x ∈ sections)
    (hrest : ∀ pid sec, (pid, sec) ∈ sections → pid ≠ psiPidPat → pid ∈ s₂.watchedPids →
      (pid, sec) ∈ second)
    (hfurther : Receives s₂ further s₃) (hfurtherof : ∀ x ∈ further, x ∈ sections) :
    s₃.watchedPids = s₂.watchedPids ∧ s₃.tables.patPmtPids = s₂.tables.patPmtPids ∧
      s₃.tables.emmPids = s₂.tables.emmPids ∧ s₃.tables.pmt = s₂.tables.pmt ∧
      s₃.derivedPids = s₂.derivedPids ∧ reports s₃.trace = reports s₂.trace := by
  have hs₁ : Reachable s₁ := hfirst.reachable hs
  have hs₂ : Reachable s₂ := hsecond.reachable hs₁
  have hknowspat : KnowsPat first s₁ :=
    (hfirst.invariant (knowsPat_invariant hcarousel) hs (hfirst.from hs hfirstof)
      ⟨by simp, fun _ hsec ↦ by simp at hsec⟩).2
  have hknows : Knows sections second s₂ :=
    (hsecond.invariant (knows_invariant hcarousel) hs₁ (hsecond.from hs₁ hsecondof)
      ⟨by simp, fun sec hsec ↦ hknowspat sec (hpat sec hsec), fun _ _ hsec ↦ by simp at hsec⟩).2
  have hentered : ∀ pid sec, (pid, sec) ∈ sections → pid ∈ s₂.watchedPids →
      s₂.tables.Entered pid sec := by
    intro pid sec hsec hwatch
    by_cases hpid : pid = psiPidPat
    · subst hpid
      exact hknows.1 sec hsec
    · exact hknows.2 pid sec (hrest pid sec hsec hpid hwatch)
  have hunmoved : Unmoved s₂ s₃ :=
    hfurther.invariant (unmoved_invariant hcarousel hs₂.not_dirty hentered) hs₂
      (hfurther.from hs₂ hfurtherof) ⟨rfl, rfl, rfl, rfl⟩
  rw [hunmoved.tables]
  exact ⟨hunmoved.watchedPids, rfl, rfl, rfl, hunmoved.derivedPids, hunmoved.reports⟩

/-- The PAT and the one PMT section of a small transponder. -/
def smallCarousel : Set (ℕ × List UInt8) := {(0, patSection), (100, freePmtSection)}

theorem carousel_smallCarousel : Tables.Carousel smallCarousel := by
  have hone : ∀ pid sec other, (pid, sec) ∈ smallCarousel → (pid, other) ∈ smallCarousel →
      sec = other := by
    intro pid sec other h hother
    rcases h with h | h <;> rcases hother with hother | hother <;>
      obtain ⟨rfl, rfl⟩ := Prod.mk.inj h <;> obtain ⟨hpid, rfl⟩ := Prod.mk.inj hother
    all_goals first | rfl | cases hpid
  refine ⟨fun pid sec h ↦ ?_, fun pid sec other _ h hother ↦ by rw [hone pid sec other h hother],
    fun pid sec other _ h hother _ ↦ hone pid sec other h hother,
    fun pid sec other _ _ ↦ hone pid sec other⟩
  rcases h with h | h <;> obtain ⟨rfl, rfl⟩ := Prod.mk.inj h <;> decide +kernel

theorem carousel_stable_smallCarousel :
    ∃ s₁ s₂ s₃, processTS (packetOf 0 patSection) (construct true false ∅) = some s₁ ∧
      processTS (packetOf 100 freePmtSection) s₁ = some s₂ ∧
      Runs.run step s₂
        [.processTS (packetOf 100 freePmtSection), .processTS (packetOf 0 patSection)] = some s₃ ∧
      s₃.tables.pmt = s₂.tables.pmt ∧ reports s₃.trace = reports s₂.trace := by
  have hruns : ((processTS (packetOf 0 patSection) (construct true false ∅)).bind fun s₁ ↦
      (processTS (packetOf 100 freePmtSection) s₁).bind fun s₂ ↦
        (Runs.run step s₂ [.processTS (packetOf 100 freePmtSection),
          .processTS (packetOf 0 patSection)]).map fun s₃ ↦
            (handed s₁.trace, handed s₂.trace, handed s₃.trace)) =
      some ([(0, patSection)], [(0, patSection), (100, freePmtSection)],
        [(0, patSection), (100, freePmtSection), (100, freePmtSection), (0, patSection)]) := by
    decide +kernel
  obtain ⟨s₁, hs₁, hruns⟩ := Option.bind_eq_some_iff.mp hruns
  obtain ⟨s₂, hs₂, hruns⟩ := Option.bind_eq_some_iff.mp hruns
  obtain ⟨s₃, hs₃, hhanded⟩ := Option.map_eq_some_iff.mp hruns
  obtain ⟨hhanded₁, hhanded₂₃⟩ := Prod.mk.inj hhanded
  obtain ⟨hhanded₂, hhanded₃⟩ := Prod.mk.inj hhanded₂₃
  have hfirst : Receives (construct true false ∅) [(0, patSection)] s₁ :=
    ⟨[_], by rw [List.map_singleton, Runs.run_cons, step, hs₁]; rfl, hhanded₁⟩
  have hsecond : Receives s₁ [(100, freePmtSection)] s₂ :=
    ⟨[_], by rw [List.map_singleton, Runs.run_cons, step, hs₂]; rfl,
      by rw [hhanded₁, hhanded₂]; rfl⟩
  have hfurther : Receives s₂ [(100, freePmtSection), (0, patSection)] s₃ :=
    ⟨[_, _], hs₃, by rw [hhanded₂, hhanded₃]; rfl⟩
  have hreach : Reachable (construct true false ∅) :=
    ⟨true, false, ∅, Runs.Reachable.refl step _⟩
  have hpat : (0, patSection) ∈ smallCarousel := Or.inl rfl
  have hpmt : (100, freePmtSection) ∈ smallCarousel := Or.inr rfl
  have hstable := carousel_stable carousel_smallCarousel hreach hfirst (by simpa using hpat)
    (fun sec hsec ↦ by
      rcases hsec with hsec | hsec
      · exact List.mem_singleton.mpr hsec
      · cases (Prod.mk.inj hsec).1)
    hsecond (by simpa using hpmt)
    (fun pid sec hsec hpid _ ↦ by
      rcases hsec with hsec | hsec
      · exact absurd (Prod.mk.inj hsec).1 hpid
      · exact List.mem_singleton.mpr hsec)
    hfurther (by simpa using ⟨hpmt, hpat⟩)
  exact ⟨s₁, s₂, s₃, hs₁, hs₂, hs₃, hstable.2.2.2.1, hstable.2.2.2.2.2⟩

end SatipClient.PSI
