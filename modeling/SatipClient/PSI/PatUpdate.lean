import SatipClient.PSI.Representation
import SatipClient.PSI.Retune

/-!
# Updates of the PAT

When the version of the PAT changes, `parsePAT` forgets the sections of the old version and drops
what it knows of every service that the first section of the new one does not list.  A service that
is listed in a later section is then inactive until its PMT comes again, and its pids are missing
from the sets reported in the meantime.
-/

namespace SatipClient.PSI

open Checked

namespace Tables

/-- The PMT pids that a PAT section lists. -/
def listedIn (sec : List UInt8) : Finset ℕ := (patProgramsFrom sec 8 ∅).getD ∅

/-- The sections of a PAT whose version is not the one known, numbered. -/
structure PatUpdate (known : Option ℕ) (update : Finset (List UInt8)) : Prop where
  isTable : ∀ sec ∈ update, IsTable sec 0x00
  version : ∀ sec ∈ update, ∀ other ∈ update,
    (byteAt sec 5).map versionOf = (byteAt other 5).map versionOf
  new : ∀ sec ∈ update, (byteAt sec 5).map versionOf ≠ known
  number : ∀ sec ∈ update, ∀ other ∈ update, byteAt sec 6 = byteAt other 6 → sec = other

/-- If the section is a PMT section of the service, it confirms that the service has these ECM pids
and carries a joined elementary stream. -/
def Confirms (t : Tables) (pid : ℕ) (sec : List UInt8) : Prop :=
  ∀ contents ∈ serviceIn t.caidFilter sec,
    (t.infoOf pid).ecmPids ⊆ contents.1 ∧ ∃ es ∈ contents.2, es ∈ t.joinedPids

variable {t t' : Tables} {pid other : ℕ} {sec first : List UInt8} {update : Finset (List UInt8)}

/-- The service is listed and active and has at least the ECM pids that are known of it here. -/
structure Keeps (t₀ : Tables) (pid : ℕ) (t : Tables) : Prop where
  caidFilter : t.caidFilter = t₀.caidFilter
  joinedPids : t.joinedPids = t₀.joinedPids
  listed : pid ∈ t.patPmtPids
  ecmPids : (t₀.infoOf pid).ecmPids ⊆ (t.infoOf pid).ecmPids
  active : ∃ es ∈ (t.infoOf pid).esPids, es ∈ t₀.joinedPids

variable {t₀ : Tables}

/-- The pids of a service that is listed and active are wanted. -/
theorem servicePids_subset (hlisted : pid ∈ t.patPmtPids) (hactive : t.isActive pid = true) :
    t.servicePids pid ⊆ t.wantedPids := calc
  t.servicePids pid ⊆ (t.patPmtPids.filter fun pmtPid ↦ t.isActive pmtPid).biUnion t.servicePids :=
    Finset.subset_biUnion_of_mem t.servicePids (Finset.mem_filter.mpr ⟨hlisted, hactive⟩)
  _ ⊆ t.wantedPids := Finset.subset_union_right

theorem Keeps.servicePids_subset (h : Keeps t₀ pid t) : t₀.servicePids pid ⊆ t.wantedPids := by
  have hactive : t.isActive pid = true := by
    rw [isActive_eq, h.joinedPids, decide_eq_true_iff]
    exact h.active
  calc
    t₀.servicePids pid ⊆ t.servicePids pid := by
      rw [servicePids_eq, servicePids_eq]
      exact Finset.insert_subset_insert _ h.ecmPids
    _ ⊆ t.wantedPids := Tables.servicePids_subset h.listed hactive

theorem Keeps.of_infoOf (h : Keeps t₀ pid t) (hfilter : t'.caidFilter = t.caidFilter)
    (hjoined : t'.joinedPids = t.joinedPids) (hlisted : pid ∈ t'.patPmtPids)
    (hinfo : t'.infoOf pid = t.infoOf pid) : Keeps t₀ pid t' :=
  ⟨hfilter.trans h.caidFilter, hjoined.trans h.joinedPids, hlisted, by rw [hinfo]; exact h.ecmPids,
    by rw [hinfo]; exact h.active⟩

/-- A PAT section that leaves the service listed leaves what is known of it. -/
theorem Keeps.withPatSection (h : Keeps t₀ pid t) {version number : ℕ} {pids : Finset ℕ}
    (hlisted : pid ∈ (t.withPatSection version number pids).patPmtPids) :
    Keeps t₀ pid (t.withPatSection version number pids) := by
  refine h.of_infoOf rfl rfl hlisted ?_
  have hpmt : (t.withPatSection version number pids).pmt pid = t.pmt pid := by
    unfold Tables.withPatSection at hlisted ⊢
    dsimp only at hlisted ⊢
    split
    · rfl
    · exact eraseUnlisted_of_mem _ hlisted
  rw [infoOf, infoOf, hpmt]

/-- What an entered section lists is listed. -/
theorem PatEntered.listed (h : t.PatEntered sec) : listedIn sec ⊆ t.patPmtPids := by
  obtain ⟨flags, number, pids, -, hnumber, hpids, -, hstored, hunion⟩ := h
  intro listed hlisted
  rw [listedIn, hpids, Option.getD_some] at hlisted
  rw [hunion, mem_sectionUnion]
  exact ⟨number, byteAt_lt hnumber, by rwa [hstored]⟩

/-- Sections of other tables, and of the service itself as long as they confirm it, keep it. -/
theorem Keeps.handleSection (h : Keeps t₀ pid t) (hother : other ≠ psiPidPat)
    (hconfirms : other = pid → t₀.Confirms pid sec)
    (hhandle : handleSection other sec t = some t') :
    Keeps t₀ pid t' ∧ t'.patVersion = t.patVersion ∧ t'.patSections = t.patSections ∧
      t'.patPmtPids = t.patPmtPids := by
  rcases handleSection_cases hhandle with rfl | rfl | rfl | ⟨hpat, -⟩ | ⟨-, -, hparse⟩ |
    ⟨-, -, -, hparse⟩
  case inl | inr.inl | inr.inr.inl => exact ⟨h.of_infoOf rfl rfl h.listed rfl, rfl, rfl, rfl⟩
  · exact absurd hpat hother
  · obtain ⟨flags, number, descriptors, pids, -, -, -, -, rfl⟩ := parseCAT_cases hparse
    exact ⟨h.of_infoOf rfl rfl h.listed rfl, rfl, rfl, rfl⟩
  · by_cases hsame : other = pid
    · subst hsame
      rcases parsePMT_cases hparse with ⟨-, rfl⟩ | ⟨version, ecmPids, esPids, hstored, rfl⟩
      · exact ⟨h.of_infoOf rfl rfl h.listed (infoOf_of_pmt (Function.update_self ..)), rfl, rfl,
          rfl⟩
      · have hread : serviceIn t₀.caidFilter sec = some (ecmPids, esPids) := by
          rw [← h.caidFilter]
          exact serviceIn_of_pmtStored hstored
        obtain ⟨hecm, hes⟩ := hconfirms rfl _ hread
        have hinfo : (t.countSection.withPmtSection other version ecmPids esPids).infoOf other =
            ⟨some version, ecmPids, esPids⟩ := infoOf_of_pmt (Function.update_self ..)
        refine ⟨⟨h.caidFilter, h.joinedPids, h.listed, ?_, ?_⟩, rfl, rfl, rfl⟩
        · rw [hinfo]
          exact hecm
        · rw [hinfo]
          exact hes
    · have hinfo : t'.infoOf pid = t.infoOf pid := by
        rw [infoOf, (parsePMT_frame (Ne.symm hsame) hparse).1]
        rfl
      rcases parsePMT_cases hparse with ⟨-, rfl⟩ | ⟨version, ecmPids, esPids, -, rfl⟩ <;>
        exact ⟨h.of_infoOf rfl rfl h.listed hinfo, rfl, rfl, rfl⟩

/-- Below the limit the set is everything that is wanted. -/
theorem caPids_of_card_lt (h : t.caPids.card < psiMaxDerivedPids) : t.caPids = t.wantedPids := by
  rw [caPids, truncatePids_eq_smallest] at h ⊢
  rcases Nat.le_total t.wantedPids.card psiMaxDerivedPids with hcard | hcard
  · exact BoundedSet.smallest_of_card_le hcard
  · rw [BoundedSet.card_smallest_of_le hcard] at h
    exact absurd h (Nat.lt_irrefl _)

end Tables

open Tables (PatUpdate listedIn Keeps)

/-- A service that is received: it is listed and active, and its PMT pid and ECM pids are in the
derived set. -/
structure ServiceUp (s : SatipPSI) (pid : ℕ) : Prop where
  listed : pid ∈ s.tables.patPmtPids
  active : s.tables.isActive pid = true
  derivedPids : s.tables.servicePids pid ⊆ s.derivedPids

/-- What may arrive during and after the update: PAT sections of the new version, PMT sections of
the service that confirm it, and anything on other pids. -/
def DuringUpdate (t : Tables) (pid : ℕ) (update : Finset (List UInt8)) (x : ℕ × List UInt8) :
    Prop := (x.1 = psiPidPat → x.2 ∈ update) ∧ (x.1 = pid → t.Confirms pid x.2)

/-- The first PAT section that arrives lists the PMT pid. -/
def FirstLists (pid : ℕ) (received : List (ℕ × List UInt8)) : Prop :=
  ∀ x ∈ received.find? (·.1 = psiPidPat), pid ∈ listedIn x.2

/-- What holds while the update arrives: the service is kept, and the PAT is the old one or has the
section in which the service was listed first; every set reported on the way that the limit did not
cut off has its pids. -/
structure Updating (t₀ : Tables) (pid : ℕ) (update : Finset (List UInt8))
    (past : List (Finset ℕ)) (received : List (ℕ × List UInt8)) (s : SatipPSI) : Prop where
  keeps : Keeps t₀ pid s.tables
  pat : ((∀ x ∈ received, x.1 ≠ psiPidPat) ∧ s.tables.patVersion = t₀.patVersion) ∨
    ∃ first ∈ update, pid ∈ listedIn first ∧ s.tables.PatEntered first
  reports : ∃ more, reports s.trace = past ++ more ∧
    ∀ pids ∈ more, pids.card < psiMaxDerivedPids → t₀.servicePids pid ⊆ pids

variable {s next : SatipPSI} {t₀ : Tables} {pid other : ℕ} {sec : List UInt8}
  {update : Finset (List UInt8)} {past : List (Finset ℕ)} {received : List (ℕ × List UInt8)}

theorem Receives.reports_newEvents (hs : Reachable s) (h : Receives s received next)
    {more : List (Finset ℕ)} (hmore : reports next.trace = reports s.trace ++ more) :
    reports (newEvents s next) = more := by
  have htrace : reports next.trace = reports s.trace ++ reports (newEvents s next) := by
    rw [(h.newEvents_spec hs).1, reports_append]
  exact List.append_cancel_left (htrace.symm.trans hmore)

theorem FirstLists.of_append {more : List (ℕ × List UInt8)}
    (h : FirstLists pid (received ++ more)) : FirstLists pid received := by
  intro x hx
  apply h
  rw [List.find?_append, Option.mem_def.mp hx]
  rfl

/-- The PAT section that arrives first is the one that lists the pid. -/
theorem FirstLists.listed (h : FirstLists pid (received ++ [(psiPidPat, sec)]))
    (hnone : ∀ x ∈ received, x.1 ≠ psiPidPat) : pid ∈ listedIn sec := by
  have hfind : received.find? (·.1 = psiPidPat) = none := by
    rw [List.find?_eq_none]
    simpa using hnone
  apply h (psiPidPat, sec)
  rw [List.find?_append, hfind]
  rfl

theorem Updating.patSection (h : Updating s.tables pid update past received next)
    (hupdate : PatUpdate s.tables.patVersion update) (hsec : sec ∈ update)
    (hfirst : FirstLists pid (received ++ [(psiPidPat, sec)])) {tables : Tables}
    (hhandle : next.tables.handleSection psiPidPat sec = some tables) :
    Keeps s.tables pid tables ∧
      ∃ first ∈ update, pid ∈ listedIn first ∧ tables.PatEntered first := by
  rw [Tables.handleSection_of_tableOf (hupdate.isTable sec hsec)] at hhandle
  have hentered : ∃ first ∈ update, pid ∈ listedIn first ∧ tables.PatEntered first := by
    rcases h.pat with ⟨hnone, -⟩ | ⟨first, hmem, hlists, hold⟩
    · exact ⟨sec, hsec, hfirst.listed hnone, Tables.patEntered_of_parsePAT hhandle⟩
    · exact ⟨first, hmem, hlists, Tables.PatEntered.keep (t := next.tables.countSection) hold
        (hupdate.version first hmem sec hsec) (hupdate.number first hmem sec hsec) hhandle⟩
  refine ⟨?_, hentered⟩
  obtain ⟨first, -, hlists, hknown⟩ := hentered
  have hlisted : pid ∈ tables.patPmtPids := hknown.listed hlists
  obtain ⟨flags, number, pids, -, -, -, rfl⟩ := Tables.parsePAT_cases hhandle
  have hcounted : Keeps s.tables pid next.tables.countSection :=
    h.keeps.of_infoOf rfl rfl h.keeps.listed rfl
  exact hcounted.withPatSection hlisted

theorem updating_invariant (hupdate : PatUpdate s.tables.patVersion update) :
    SectionInvariant (Event.From {x | DuringUpdate s.tables pid update x}) fun received next ↦
      FirstLists pid received → Updating s.tables pid update past received next where
  frame _ _ _ _ h hfirst := ⟨(h hfirst).keeps, (h hfirst).pat, (h hfirst).reports⟩
  handleSection received next other sec after h _ hfrom hafter hfirst := by
    have hnow := h hfirst.of_append
    obtain ⟨hpat, hconfirms⟩ : DuringUpdate s.tables pid update (other, sec) := hfrom
    obtain ⟨tables, htables, rfl⟩ := exists_tables_of_handleSection hafter
    have hreports : ∃ more, reports (next.trace ++ [.handleSection next.tables other sec]) =
        past ++ more ∧
          ∀ pids ∈ more, pids.card < psiMaxDerivedPids → s.tables.servicePids pid ⊆ pids := by
      simpa [reports] using hnow.reports
    by_cases hother : other = psiPidPat
    · subst hother
      obtain ⟨hkeeps, hentered⟩ := hnow.patSection hupdate (hpat rfl) hfirst htables
      exact ⟨hkeeps, Or.inr hentered, hreports⟩
    · obtain ⟨hkeeps, hversion, hsections, hpids⟩ :=
        hnow.keeps.handleSection hother hconfirms htables
      refine ⟨hkeeps, hnow.pat.imp (fun hold ↦ ⟨?_, hversion.trans hold.2⟩) ?_, hreports⟩
      · intro x hx
        rcases List.mem_append.mp hx with hearlier | hlast
        · exact hold.1 x hearlier
        · rw [List.mem_singleton.mp hlast]
          exact hother
      · rintro ⟨first, hmem, hlists, hknown⟩
        refine ⟨first, hmem, hlists, ?_⟩
        unfold Tables.PatEntered at hknown ⊢
        rwa [hversion, hsections, hpids]
  settle received next h hfirst := by
    have hnow := h hfirst
    refine ⟨?_, ?_, ?_⟩
    · rw [tables_settle]
      exact hnow.keeps.of_infoOf rfl rfl hnow.keeps.listed rfl
    · rw [tables_settle]
      exact hnow.pat
    · obtain ⟨before, hbefore, hheld⟩ := hnow.reports
      refine ⟨_, by rw [reports_settle, hbefore, List.append_assoc], ?_⟩
      intro pids hpids hcard
      rcases List.mem_append.mp hpids with hold | hnew
      · exact hheld pids hold hcard
      · obtain rfl := List.mem_singleton.mp (List.mem_ite_nil_right.mp hnew).2
        rw [Tables.caPids_of_card_lt hcard]
        exact hnow.keeps.servicePids_subset

/-- As long as the first section of the new PAT that arrives lists the service, every set reported
has its pids, unless the limit cuts it off. -/
theorem reports_of_firstLists (hs : Reachable s) (hup : ServiceUp s pid)
    (hupdate : PatUpdate s.tables.patVersion update) (hreceives : Receives s received next)
    (hduring : ∀ x ∈ received, DuringUpdate s.tables pid update x)
    (hfirst : FirstLists pid received) :
    ∀ pids ∈ reports (newEvents s next), pids.card < psiMaxDerivedPids →
      s.tables.servicePids pid ⊆ pids := by
  have hactive := hup.active
  rw [Tables.isActive_eq, decide_eq_true_iff] at hactive
  have hstart : Updating s.tables pid update (reports s.trace) [] s :=
    ⟨⟨rfl, rfl, hup.listed, Finset.Subset.refl _, hactive⟩, Or.inl ⟨by simp, rfl⟩,
      [], (List.append_nil _).symm, by simp⟩
  have hnow := hreceives.invariant (updating_invariant hupdate) hs (hreceives.from hs hduring)
    (fun _ ↦ hstart) hfirst
  obtain ⟨more, hmore, hheld⟩ := hnow.reports
  rw [hreceives.reports_newEvents hs hmore]
  exact hheld

/-! ## When the service is interrupted -/

/-- After PAT sections of an update, what is known are the services that its first section lists. -/
structure Pruned (t₀ : Tables) (first : List UInt8) (t : Tables) : Prop where
  emmEnabled : t.emmEnabled = t₀.emmEnabled
  joinedPids : t.joinedPids = t₀.joinedPids
  emmPids : t.emmPids = t₀.emmPids
  listed : listedIn first ⊆ t.patPmtPids
  pmt : ∀ pid, t.pmt pid = if pid ∈ listedIn first then t₀.pmt pid else none

namespace Tables

variable {t : Tables} {first : List UInt8}

/-- The tables with the services that one section lists. -/
def withOnly (t : Tables) (listed : Finset ℕ) : Tables := { t with patPmtPids := listed }

/-- The services that later sections list are not known, so that they add nothing. -/
theorem wantedPids_of_pruned (h : Pruned t₀ first t) :
    t.wantedPids = (t₀.withOnly (listedIn first)).wantedPids := by
  ext listed
  rw [mem_wantedPids_iff, mem_wantedPids_iff, h.emmEnabled, h.emmPids, h.joinedPids]
  apply or_congr_right
  have hinfo : ∀ pid, t.infoOf pid = if pid ∈ listedIn first then t₀.infoOf pid else {} := by
    intro pid
    rw [infoOf, h.pmt]
    split <;> rfl
  constructor
  · rintro ⟨pid, -, hcalled⟩
    rw [hinfo] at hcalled
    split_ifs at hcalled with hpid
    · exact ⟨pid, hpid, hcalled⟩
    · simp [calledFor] at hcalled
  · rintro ⟨pid, hpid, hcalled⟩
    have hlists : pid ∈ listedIn first := hpid
    have hsame : t.infoOf pid = t₀.infoOf pid := by rw [hinfo, if_pos hlists]
    exact ⟨pid, h.listed hlists, by rwa [hsame]⟩

theorem caPids_of_pruned (h : Pruned t₀ first t) :
    t.caPids = (t₀.withOnly (listedIn first)).caPids := by
  rw [caPids, wantedPids_of_pruned h, caPids]

/-- A service that is not known adds nothing, whatever lists it. -/
theorem wantedPids_withOnly_subset (hok : t.Ok) (listed : Finset ℕ) :
    (t.withOnly listed).wantedPids ⊆ t.wantedPids := by
  intro pid hpid
  rw [mem_wantedPids_iff] at hpid ⊢
  refine hpid.imp_right fun hservice ↦ ?_
  obtain ⟨service, -, hcalled⟩ := hservice
  have hinfo : (t.withOnly listed).infoOf service = t.infoOf service := rfl
  rw [hinfo] at hcalled
  cases hpmt : t.pmt service with
  | none => simp [infoOf, hpmt, calledFor] at hcalled
  | some info => exact ⟨service, hok.pmt service info hpmt, hcalled⟩

/-- The first section of a new version: what it does not list is forgotten. -/
theorem pruned_of_parsePAT {t' : Tables} (hok : t.Ok)
    (hnew : (byteAt first 5).map versionOf ≠ t.patVersion) (h : parsePAT first t = some t') :
    Pruned t first t' ∧ (listedIn first ≠ t.patPmtPids → t'.dirty = true) := by
  obtain ⟨flags, number, pids, hflags, hnumber, hpids, rfl⟩ := parsePAT_cases h
  have hlisted : listedIn first = pids := by rw [listedIn, hpids, Option.getD_some]
  have hunion : sectionUnion (enter t.patVersion t.patSections (versionOf flags) number pids) =
      pids := by
    rw [hflags, Option.map_some] at hnew
    ext pid
    rw [mem_sectionUnion, enter, sectionsFor, if_neg hnew.symm]
    constructor
    · rintro ⟨place, -, hmem⟩
      by_cases hplace : place = number
      · subst hplace
        simpa using hmem
      · simp [Function.update_of_ne hplace] at hmem
    · intro hmem
      exact ⟨number, byteAt_lt hnumber, by simpa using hmem⟩
  rw [hlisted]
  refine ⟨⟨rfl, rfl, rfl, by rw [hlisted]; exact hunion.symm.subset, fun pid ↦ ?_⟩, fun hne ↦ ?_⟩
  · unfold withPatSection
    dsimp only
    rw [hunion, hlisted]
    split
    case isTrue hsame =>
      cases hpmt : t.pmt pid with
      | none => simp
      | some info => rw [if_pos (hsame ▸ hok.pmt pid info hpmt)]
    case isFalse => rfl
  · simp [withPatSection, hunion, hne]

/-- Later sections of this version add to what is listed, and bring nothing back. -/
theorem pruned_of_pruned {t' : Tables} {sec : List UInt8} (h : Pruned t₀ first t)
    (hlisted : listedIn first ⊆ t'.patPmtPids) (hparse : parsePAT sec t = some t') :
    Pruned t₀ first t' ∧ (t.dirty = true → t'.dirty = true) := by
  obtain ⟨flags, number, pids, -, -, -, rfl⟩ := parsePAT_cases hparse
  refine ⟨⟨h.emmEnabled, h.joinedPids, h.emmPids, hlisted, fun pid ↦ ?_⟩, fun hdirty ↦ ?_⟩
  · unfold withPatSection at hlisted ⊢
    dsimp only at hlisted ⊢
    split
    case isTrue => exact h.pmt pid
    case isFalse =>
      unfold eraseUnlisted
      rw [h.pmt]
      by_cases hpid : pid ∈ listedIn first
      · rw [if_pos hpid, if_pos (hlisted hpid)]
      · simp [hpid]
  · simp [withPatSection, hdirty]

end Tables

/-- While only PAT sections of the update arrive: what is left are the services that the first one
lists, and if this is not everything, the set that belongs to them is due to be reported, or was. -/
structure Narrowed (s : SatipPSI) (first : List UInt8) (next : SatipPSI) : Prop where
  hasCfg : next.hasCfg = true
  pruned : Pruned s.tables first next.tables
  entered : next.tables.PatEntered first
  reports : ∃ more, reports next.trace = reports s.trace ++ more ∧
    (∀ pids ∈ more, pids = (s.tables.withOnly (listedIn first)).caPids) ∧
    (listedIn first ≠ s.tables.patPmtPids →
      (next.tables.dirty = true ∧ next.derivedPids = s.derivedPids) ∨
        (s.tables.withOnly (listedIn first)).caPids = s.derivedPids ∨
        (s.tables.withOnly (listedIn first)).caPids ∈ more)

/-- Before the first section nothing has changed. -/
structure Unbegun (s next : SatipPSI) : Prop where
  hasCfg : next.hasCfg = true
  unmoved : Unmoved s next
  clean : next.tables.dirty = false

theorem narrowed_of_unbegun {first : List UInt8} {after : SatipPSI} (h : Unbegun s next)
    (hok : s.tables.Ok) (hupdate : PatUpdate s.tables.patVersion update) (hfirst : first ∈ update)
    (hafter : handleSection psiPidPat first next = some after) : Narrowed s first after := by
  obtain ⟨tables, htables, rfl⟩ := exists_tables_of_handleSection hafter
  rw [Tables.handleSection_of_tableOf (hupdate.isTable first hfirst), if_pos rfl,
    h.unmoved.tables] at htables
  have hcounted : ({ s.tables with sections := next.tables.sections } : Tables).countSection.Ok :=
    ⟨hok.patPmtPids, hok.emmPids, hok.patNumber, hok.catNumber, hok.pmt, hok.learned.pmt,
      hok.learned.emm, hok.learned.ecm, hok.learned.es⟩
  obtain ⟨hpruned, hdirty⟩ := Tables.pruned_of_parsePAT hcounted (hupdate.new first hfirst) htables
  refine ⟨h.hasCfg, ⟨hpruned.emmEnabled, hpruned.joinedPids, hpruned.emmPids, hpruned.listed,
    hpruned.pmt⟩, Tables.patEntered_of_parsePAT htables, [], ?_, by simp, ?_⟩
  · rw [List.append_nil, ← h.unmoved.reports]
    simp [reports]
  · exact fun hne ↦ Or.inl ⟨hdirty hne, h.unmoved.derivedPids⟩

theorem narrowed_of_narrowed {first : List UInt8} {after : SatipPSI} (h : Narrowed s first next)
    (hupdate : PatUpdate s.tables.patVersion update) (hfirst : first ∈ update)
    (hsec : sec ∈ update) (hafter : handleSection psiPidPat sec next = some after) :
    Narrowed s first after := by
  obtain ⟨tables, htables, rfl⟩ := exists_tables_of_handleSection hafter
  rw [Tables.handleSection_of_tableOf (hupdate.isTable sec hsec), if_pos rfl] at htables
  have hentered : tables.PatEntered first := Tables.PatEntered.keep (t := next.tables.countSection)
    h.entered (hupdate.version first hfirst sec hsec) (hupdate.number first hfirst sec hsec) htables
  have hcounted : Pruned s.tables first next.tables.countSection :=
    ⟨h.pruned.emmEnabled, h.pruned.joinedPids, h.pruned.emmPids, h.pruned.listed, h.pruned.pmt⟩
  obtain ⟨hpruned, hdirty⟩ := Tables.pruned_of_pruned hcounted hentered.listed htables
  obtain ⟨more, hmore, hsame, hdue⟩ := h.reports
  refine ⟨h.hasCfg, hpruned, hentered, more, ?_, hsame, fun hne ↦ ?_⟩
  · rw [← hmore]
    simp [reports]
  · exact (hdue hne).imp_left fun hnow ↦ ⟨hdirty hnow.1, hnow.2⟩

theorem Narrowed.settle {first : List UInt8} (h : Narrowed s first next) :
    Narrowed s first (settle next) := by
  have hcaPids : next.tables.caPids = (s.tables.withOnly (listedIn first)).caPids :=
    Tables.caPids_of_pruned h.pruned
  obtain ⟨more, hmore, hsame, hdue⟩ := h.reports
  refine ⟨(hasCfg_settle next).trans h.hasCfg, ?_, ?_, ?_⟩
  · rw [tables_settle]
    exact ⟨h.pruned.emmEnabled, h.pruned.joinedPids, h.pruned.emmPids, h.pruned.listed,
      h.pruned.pmt⟩
  · rw [tables_settle]
    exact h.entered
  · rw [reports_settle, hmore, derivedPids_settle, hcaPids, List.append_assoc]
    refine ⟨_, rfl, ?_, fun hne ↦ ?_⟩
    · intro pids hpids
      rcases List.mem_append.mp hpids with hold | hnew
      · exact hsame pids hold
      · exact List.mem_singleton.mp (List.mem_ite_nil_right.mp hnew).2
    · right
      rcases hdue hne with ⟨hdirty, hderived⟩ | hkept | hreported
      · -- The set is reported now, unless it is the one from before.
        by_cases hnew : (s.tables.withOnly (listedIn first)).caPids = next.derivedPids
        · exact Or.inl (hnew.trans hderived)
        · right
          rw [if_pos ⟨hdirty, hnew, h.hasCfg⟩]
          exact List.mem_append_right _ (List.mem_singleton_self _)
      · exact Or.inl hkept
      · exact Or.inr (List.mem_append_left _ hreported)

theorem narrowed_invariant {first : List UInt8} (hok : s.tables.Ok)
    (hupdate : PatUpdate s.tables.patVersion update) (hfirst : first ∈ update) :
    SectionInvariant (Event.From {x | x.1 = psiPidPat ∧ x.2 ∈ update}) fun received next ↦
      (∀ x ∈ received.head?, x = (psiPidPat, first)) →
        (received = [] ∧ Unbegun s next) ∨ (received ≠ [] ∧ Narrowed s first next) where
  frame _ _ _ _ h hhead := (h hhead).imp
    (fun hbefore ↦ ⟨hbefore.1, hbefore.2.hasCfg, ⟨hbefore.2.unmoved.tables,
      hbefore.2.unmoved.watchedPids, hbefore.2.unmoved.derivedPids, hbefore.2.unmoved.reports⟩,
      hbefore.2.clean⟩)
    fun hnow ↦ ⟨hnow.1, hnow.2.hasCfg, hnow.2.pruned, hnow.2.entered, hnow.2.reports⟩
  handleSection received next other sec after h _ hfrom hafter hhead := by
    obtain ⟨rfl, hsec⟩ : other = psiPidPat ∧ sec ∈ update := hfrom
    refine Or.inr ⟨by simp, ?_⟩
    cases received with
    | nil =>
      obtain rfl : sec = first := (Prod.mk.inj (hhead (psiPidPat, sec) rfl)).2
      rcases h (by simp) with ⟨-, hbefore⟩ | ⟨hne, -⟩
      · exact narrowed_of_unbegun hbefore hok hupdate hsec hafter
      · exact absurd rfl hne
    | cons x received =>
      rcases h (fun y hy ↦ hhead y hy) with ⟨hnil, -⟩ | ⟨-, hnow⟩
      · cases hnil
      · exact narrowed_of_narrowed hnow hupdate hfirst hsec hafter
  settle received next h hhead := by
    rcases h hhead with ⟨hnil, hbefore⟩ | ⟨hne, hnow⟩
    · rw [settle_of_not_dirty hbefore.clean]
      exact Or.inl ⟨hnil, hbefore⟩
    · exact Or.inr ⟨hne, hnow.settle⟩

/-- When only the sections of the update arrive, the service is in every set reported exactly when
the services that the first one lists call for its pids. -/
theorem reports_of_only_update {first : List UInt8} {rest : List (ℕ × List UInt8)}
    (hs : Reachable s) (hcfg : s.hasCfg = true) (hup : ServiceUp s pid)
    (hupdate : PatUpdate s.tables.patVersion update)
    (hreceives : Receives s ((psiPidPat, first) :: rest) next)
    (honly : ∀ x ∈ (psiPidPat, first) :: rest, x.1 = psiPidPat ∧ x.2 ∈ update)
    (hlimit : s.tables.wantedPids.card ≤ psiMaxDerivedPids) :
    (∀ pids ∈ reports (newEvents s next), s.tables.servicePids pid ⊆ pids) ↔
      s.tables.servicePids pid ⊆ (s.tables.withOnly (listedIn first)).wantedPids := by
  have hok : s.tables.Ok := hs.settled.tables
  have hcard : (s.tables.withOnly (listedIn first)).wantedPids.card ≤ psiMaxDerivedPids :=
    (Finset.card_le_card (Tables.wantedPids_withOnly_subset hok _)).trans hlimit
  have hset : (s.tables.withOnly (listedIn first)).caPids =
      (s.tables.withOnly (listedIn first)).wantedPids := by
    rw [Tables.caPids, truncatePids_eq_smallest, BoundedSet.smallest_of_card_le hcard]
  have hstart : Unbegun s s := ⟨hcfg, ⟨rfl, rfl, rfl, rfl⟩, hs.not_dirty⟩
  have hfirst : first ∈ update := (honly _ List.mem_cons_self).2
  have hend := hreceives.invariant (narrowed_invariant hok hupdate hfirst) hs
    (hreceives.from hs honly) (fun _ ↦ Or.inl ⟨rfl, hstart⟩) (by simp)
  obtain ⟨-, hnow⟩ := hend.resolve_left fun hbefore ↦ List.cons_ne_nil _ _ hbefore.1
  obtain ⟨more, hmore, hsame, hdue⟩ := hnow.reports
  rw [hreceives.reports_newEvents hs hmore, ← hset]
  constructor
  · intro hall
    by_cases hlists : listedIn first = s.tables.patPmtPids
    · rw [hset, hlists]
      exact Tables.servicePids_subset hup.listed hup.active
    · rcases hdue hlists with ⟨hdirty, -⟩ | hderived | hreported
      · rw [(hreceives.reachable hs).not_dirty] at hdirty
        cases hdirty
      · rw [hderived]
        exact hup.derivedPids
      · exact hall _ hreported
  · intro hcalled pids hpids
    rw [hsame pids hpids]
    exact hcalled

/-- During and after an update of the PAT every set reported has the pids of a service that stays,
if the first section that arrives lists the service.  If it does not and only the update arrives,
they are in every set exactly when the services that it lists call for the same pids. -/
theorem update_keeps_service (hs : Reachable s) (hcfg : s.hasCfg = true) (hup : ServiceUp s pid)
    (hupdate : PatUpdate s.tables.patVersion update) (hreceives : Receives s received next)
    (hduring : ∀ x ∈ received, DuringUpdate s.tables pid update x) :
    (FirstLists pid received → ∀ pids ∈ reports (newEvents s next),
      pids.card < psiMaxDerivedPids → s.tables.servicePids pid ⊆ pids) ∧
    ∀ first rest, received = (psiPidPat, first) :: rest → (∀ x ∈ rest, x.1 = psiPidPat) →
      s.tables.wantedPids.card ≤ psiMaxDerivedPids →
        ((∀ pids ∈ reports (newEvents s next), s.tables.servicePids pid ⊆ pids) ↔
          s.tables.servicePids pid ⊆ (s.tables.withOnly (listedIn first)).wantedPids) := by
  refine ⟨reports_of_firstLists hs hup hupdate hreceives hduring, ?_⟩
  rintro first rest rfl hrest hlimit
  refine reports_of_only_update hs hcfg hup hupdate hreceives ?_ hlimit
  intro x hx
  have hpat : x.1 = psiPidPat := by
    rcases List.mem_cons.mp hx with rfl | hlater
    · rfl
    · exact hrest x hlater
  exact ⟨hpat, (hduring x hx).1 hpat⟩

/-- A PAT of version 1 in two sections: the first has program 2 on pid 200, the second still has
program 1 on pid 100. -/
def otherServiceSection : List UInt8 :=
  [0, 176, 13, 0, 1, 195, 0, 1, 0, 2, 224, 200, 148, 168, 160, 166]

def sameServiceSection : List UInt8 :=
  [0, 176, 13, 0, 1, 195, 1, 1, 0, 1, 224, 100, 73, 202, 149, 61]

theorem patUpdate_twoSections :
    PatUpdate (some 0) {otherServiceSection, sameServiceSection} := by
  constructor <;> decide +kernel

/-- A packet for each of these PAT sections, after a run that received the service on pid 100. -/
theorem receives_update {first second : List UInt8} {s next : SatipPSI}
    (hrun : Runs.run step (construct true false ∅) reportedRun = some s)
    (hnext : processTS (packetOf 0 first ++ packetOf 0 second) s = some next)
    (hhanded : handed next.trace = handed s.trace ++ [(0, first), (0, second)]) :
    Reachable s ∧ Receives s [(0, first), (0, second)] next :=
  ⟨⟨true, false, ∅, reportedRun, hrun⟩,
    [_], by rw [List.map_singleton, Runs.run_cons, step, hnext]; rfl, hhanded⟩

/-- Only PAT sections arrive, so that nothing is said of the service. -/
theorem duringUpdate_of_pat {t : Tables} {received : List (ℕ × List UInt8)} (hpid : pid ≠ psiPidPat)
    (h : ∀ x ∈ received, x.1 = psiPidPat ∧ x.2 ∈ update) :
    ∀ x ∈ received, DuringUpdate t pid update x := by
  intro x hx
  refine ⟨fun _ ↦ (h x hx).2, fun hsame ↦ ?_⟩
  exact absurd (hsame.symm.trans (h x hx).1) hpid

/-- The section with the other program comes first, and the service is gone from the set reported
next. -/
theorem not_update_keeps_service :
    ¬ ∀ s pid update received next, Reachable s → s.hasCfg = true → ServiceUp s pid →
      PatUpdate s.tables.patVersion update → (∃ sec ∈ update, pid ∈ listedIn sec) →
      Receives s received next → (∀ x ∈ received, DuringUpdate s.tables pid update x) →
      ∀ pids ∈ reports (newEvents s next), pids.card < psiMaxDerivedPids →
        s.tables.servicePids pid ⊆ pids := by
  intro h
  have hruns : ((Runs.run step (construct true false ∅) reportedRun).bind fun s ↦
      (processTS (packetOf 0 otherServiceSection ++ packetOf 0 sameServiceSection) s).map
        fun next ↦ decide ((s.hasCfg = true ∧ 100 ∈ s.tables.patPmtPids ∧
            s.tables.isActive 100 = true ∧ s.tables.servicePids 100 ⊆ s.derivedPids ∧
            s.tables.patVersion = some 0) ∧
          s.tables.servicePids 100 = {100, 500} ∧
          handed next.trace =
            handed s.trace ++ [(0, otherServiceSection), (0, sameServiceSection)] ∧
          {0} ∈ reports (newEvents s next))) = some true := by
    decide +kernel
  obtain ⟨s, hs, hruns⟩ := Option.bind_eq_some_iff.mp hruns
  obtain ⟨next, hnext, hfields⟩ := Option.map_eq_some_iff.mp hruns
  obtain ⟨⟨hcfg, hlisted, hactive, hderived, hversion⟩, hservice, hhanded, hreport⟩ :=
    of_decide_eq_true hfields
  obtain ⟨hreach, hreceives⟩ := receives_update hs hnext hhanded
  have hupdate : PatUpdate s.tables.patVersion {otherServiceSection, sameServiceSection} := by
    rw [hversion]
    exact patUpdate_twoSections
  have hkept := h s 100 _ _ next hreach hcfg ⟨hlisted, hactive, hderived⟩ hupdate
    ⟨sameServiceSection, by decide, by decide +kernel⟩ hreceives
    (duringUpdate_of_pat (by decide) (by simp)) _ hreport (by decide)
  rw [hservice] at hkept
  revert hkept
  decide

theorem update_keeps_service_sameServiceSection :
    ∃ s next, Runs.run step (construct true false ∅) reportedRun = some s ∧
      processTS (packetOf 0 sameServiceSection ++ packetOf 0 otherServiceSection) s = some next ∧
      ∀ pids ∈ reports (newEvents s next), pids.card < psiMaxDerivedPids →
        s.tables.servicePids 100 ⊆ pids := by
  have hruns : ((Runs.run step (construct true false ∅) reportedRun).bind fun s ↦
      (processTS (packetOf 0 sameServiceSection ++ packetOf 0 otherServiceSection) s).map
        fun next ↦ decide ((s.hasCfg = true ∧ 100 ∈ s.tables.patPmtPids ∧
            s.tables.isActive 100 = true ∧ s.tables.servicePids 100 ⊆ s.derivedPids ∧
            s.tables.patVersion = some 0) ∧
          handed next.trace =
            handed s.trace ++ [(0, sameServiceSection), (0, otherServiceSection)])) =
      some true := by
    decide +kernel
  obtain ⟨s, hs, hruns⟩ := Option.bind_eq_some_iff.mp hruns
  obtain ⟨next, hnext, hfields⟩ := Option.map_eq_some_iff.mp hruns
  obtain ⟨⟨hcfg, hlisted, hactive, hderived, hversion⟩, hhanded⟩ := of_decide_eq_true hfields
  obtain ⟨hreach, hreceives⟩ := receives_update hs hnext hhanded
  have hupdate : PatUpdate s.tables.patVersion {otherServiceSection, sameServiceSection} := by
    rw [hversion]
    exact patUpdate_twoSections
  have hlists : 100 ∈ listedIn sameServiceSection := by decide +kernel
  have hfirst : FirstLists 100 [(0, sameServiceSection), (0, otherServiceSection)] := by
    intro x hx
    obtain rfl := Option.some.inj hx
    exact hlists
  exact ⟨s, next, hs, hnext, (update_keeps_service hreach hcfg ⟨hlisted, hactive, hderived⟩ hupdate
    hreceives (duringUpdate_of_pat (by decide) (by simp))).1 hfirst⟩

end SatipClient.PSI
