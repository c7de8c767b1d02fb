import SatipClient.PSI.Effects

/-!
# What sections announce

The section parsers walk over a section by index.  Here the layout of the tables is written down
over lists of bytes instead: the programs of a PAT, the descriptors of a CAT or a PMT, the
elementary streams of a PMT.  Each loop of the parser collects exactly the pids that are listed
there, as far as they are usable (`mem_patProgramsFrom_iff`, `mem_collectCaDescriptorsFrom_iff`,
`mem_pmtStreamsFrom_iff`).
-/

namespace SatipClient.PSI

open Checked

/-- A pid that a table may name: neither that of the PAT nor that of null packets. -/
def Usable (pid : ℕ) : Prop := 0 < pid ∧ pid < psiPidNull

namespace Tables

/-- The bytes of a section from `pos` on, up to `fin`. -/
def bytesFrom (sec : List UInt8) (fin pos : ℕ) : List UInt8 := (sec.take fin).drop pos

/-- The programs listed in these bytes, each with its PMT pid. -/
def programsIn : List UInt8 → List (ℕ × ℕ)
  | numberHigh :: numberLow :: pidHigh :: pidLow :: rest =>
    ((numberHigh.toNat <<< 8) ||| numberLow.toNat, pidOfBytes pidHigh.toNat pidLow.toNat) ::
      programsIn rest
  | _ => []

theorem programsIn_of_lt {bytes : List UInt8} (h : bytes.length < 4) : programsIn bytes = [] := by
  unfold programsIn
  split
  · simp only [List.length_cons] at h
    omega
  · rfl

/-- The descriptors in these bytes, each a tag and a body, up to one that is cut off. -/
def descriptorsIn : List UInt8 → List (ℕ × List UInt8)
  | tag :: size :: rest =>
    if rest.length < size.toNat then []
    else (tag.toNat, rest.take size.toNat) :: descriptorsIn (rest.drop size.toNat)
  | _ => []
termination_by bytes => bytes.length
decreasing_by simp only [List.length_drop, List.length_cons]; omega

/-- The elementary streams in these bytes, each a pid and the bytes of its descriptors.  A stream
whose descriptors are cut off is the last one, and without them. -/
def streamsIn : List UInt8 → List (ℕ × List UInt8)
  | _ :: pidHigh :: pidLow :: lengthHigh :: lengthLow :: rest =>
    if rest.length < lengthOfBytes lengthHigh.toNat lengthLow.toNat then
      [(pidOfBytes pidHigh.toNat pidLow.toNat, [])]
    else
      (pidOfBytes pidHigh.toNat pidLow.toNat,
        rest.take (lengthOfBytes lengthHigh.toNat lengthLow.toNat)) ::
          streamsIn (rest.drop (lengthOfBytes lengthHigh.toNat lengthLow.toNat))
  | _ => []
termination_by bytes => bytes.length
decreasing_by simp only [List.length_drop, List.length_cons]; omega

/-- The descriptor is a CA descriptor that names this pid, for a CA system that the filter
contains if it contains any. -/
def NamesCaPid (caidFilter : Finset ℕ) (descriptor : ℕ × List UInt8) (pid : ℕ) : Prop :=
  descriptor.1 = 0x09 ∧ ∃ caidHigh caidLow pidHigh pidLow rest,
    descriptor.2 = caidHigh :: caidLow :: pidHigh :: pidLow :: rest ∧
      (caidFilter = ∅ ∨ (caidHigh.toNat <<< 8) ||| caidLow.toNat ∈ caidFilter) ∧
      pidOfBytes pidHigh.toNat pidLow.toNat = pid

/-- The PAT section lists a program with this PMT pid.  Program 0 names the network information
table. -/
def ListsPmtPid (sec : List UInt8) (pid : ℕ) : Prop :=
  ∃ number ≠ 0, (number, pid) ∈ programsIn (bytesFrom sec (sec.length - 4) 8)

/-- A CA descriptor of the CAT section names this pid. -/
def NamesEmmPid (caidFilter : Finset ℕ) (sec : List UInt8) (pid : ℕ) : Prop :=
  ∃ descriptor ∈ descriptorsIn (bytesFrom sec (sec.length - 4) 8),
    NamesCaPid caidFilter descriptor pid

/-- The elementary streams of a PMT section. -/
def streamsOf (sec : List UInt8) (programInfoLength : ℕ) : List (ℕ × List UInt8) :=
  streamsIn (bytesFrom sec (sec.length - 4) (12 + programInfoLength))

/-- A CA descriptor of the PMT section names this pid, for the whole program or for one of its
elementary streams. -/
def NamesEcmPid (caidFilter : Finset ℕ) (sec : List UInt8) (pid : ℕ) : Prop :=
  ∃ high low, byteAt sec 10 = some high ∧ byteAt sec 11 = some low ∧
    ((∃ descriptor ∈ descriptorsIn (bytesFrom sec (12 + lengthOfBytes high low) 12),
        NamesCaPid caidFilter descriptor pid) ∨
      ∃ stream ∈ streamsOf sec (lengthOfBytes high low), ∃ descriptor ∈ descriptorsIn stream.2,
        NamesCaPid caidFilter descriptor pid)

/-- The PMT section lists this elementary stream. -/
def ListsEsPid (sec : List UInt8) (pid : ℕ) : Prop :=
  ∃ high low info, byteAt sec 10 = some high ∧ byteAt sec 11 = some low ∧
    (pid, info) ∈ streamsOf sec (lengthOfBytes high low)

variable {sec p : List UInt8} {caidFilter out found : Finset ℕ} {pid fin pos value : ℕ}

/-! ## Bytes -/

/-- A byte that is read comes off the front of what is left. -/
theorem bytesFrom_cons (fin : ℕ) (hfin : pos < fin) (h : byteAt sec pos = some value) :
    ∃ byte : UInt8, byte.toNat = value ∧
      bytesFrom sec fin pos = byte :: bytesFrom sec fin (pos + 1) := by
  obtain ⟨hpos, hbyte⟩ := (byteAt_eq_some_iff _ _ _).mp h
  refine ⟨sec[pos], hbyte, ?_⟩
  have htake : pos < (sec.take fin).length := by
    rw [List.length_take]
    exact Nat.lt_min.mpr ⟨hfin, hpos⟩
  rw [bytesFrom, List.drop_eq_getElem_cons htake, List.getElem_take, bytesFrom]

theorem length_bytesFrom (hfin : fin ≤ sec.length) (pos : ℕ) :
    (bytesFrom sec fin pos).length = fin - pos := by
  rw [bytesFrom, List.length_drop, List.length_take, Nat.min_eq_left hfin]

theorem drop_bytesFrom (sec : List UInt8) (fin pos count : ℕ) :
    (bytesFrom sec fin pos).drop count = bytesFrom sec fin (pos + count) := by
  rw [bytesFrom, List.drop_drop, bytesFrom]

/-- A slice is the bytes up to its end. -/
theorem bytesFrom_of_slice {size : ℕ} {part : List UInt8} (h : slice sec pos size = some part) :
    part = bytesFrom sec (pos + size) pos := by
  unfold slice at h
  split at h
  · rw [← Option.some.inj h, bytesFrom, List.drop_take, Nat.add_sub_cancel_left]
  · cases h

theorem take_bytesFrom {size : ℕ} (h : pos + size ≤ fin) :
    (bytesFrom sec fin pos).take size = bytesFrom sec (pos + size) pos := by
  rw [bytesFrom, bytesFrom, List.drop_take, List.drop_take, List.take_take]
  congr 1
  omega

/-! ## The loops of the parsers -/

/-- One more program in front. -/
theorem exists_program_cons (number pmtPid : ℕ) (programs : List (ℕ × ℕ)) :
    (∃ other ≠ 0, (other, pid) ∈ (number, pmtPid) :: programs) ↔
      number ≠ 0 ∧ pmtPid = pid ∨ ∃ other ≠ 0, (other, pid) ∈ programs := by
  simp only [List.mem_cons, Prod.mk.injEq]
  constructor
  · rintro ⟨other, hother, ⟨rfl, rfl⟩ | hmem⟩
    · exact Or.inl ⟨hother, rfl⟩
    · exact Or.inr ⟨other, hother, hmem⟩
  · rintro (⟨hnumber, rfl⟩ | ⟨other, hother, hmem⟩)
    · exact ⟨number, hnumber, Or.inl ⟨rfl, rfl⟩⟩
    · exact ⟨other, hother, Or.inr hmem⟩

theorem mem_patProgramsFrom_iff {i : ℕ} (h : patProgramsFrom sec i out = some found) :
    pid ∈ found ↔ pid ∈ out ∨
      Usable pid ∧ ∃ number ≠ 0, (number, pid) ∈ programsIn (bytesFrom sec (sec.length - 4) i) := by
  induction hleft : sec.length - i using Nat.strong_induction_on generalizing i out with
  | _ n ih =>
    unfold patProgramsFrom at h
    by_cases hi : i + 4 + 4 ≤ sec.length
    · simp only [hi, if_true, Option.bind_eq_bind, Option.bind_eq_some_iff] at h
      obtain ⟨_, h0, _, h1, _, h2, _, h3, h⟩ := h
      obtain ⟨numberHigh, rfl, hnumberHigh⟩ := bytesFrom_cons (sec.length - 4)
        (by omega) h0
      obtain ⟨numberLow, rfl, hnumberLow⟩ := bytesFrom_cons (sec.length - 4) (by omega) h1
      obtain ⟨pidHigh, rfl, hpidHigh⟩ := bytesFrom_cons (sec.length - 4) (by omega) h2
      obtain ⟨pidLow, rfl, hpidLow⟩ := bytesFrom_cons (sec.length - 4) (by omega) h3
      rw [hnumberHigh, hnumberLow, hpidHigh, hpidLow, programsIn, exists_program_cons]
      split_ifs at h with hskip
      · have hunusable : ¬(Usable pid ∧ (numberHigh.toNat <<< 8) ||| numberLow.toNat ≠ 0 ∧
            pidOfBytes pidHigh.toNat pidLow.toNat = pid) := by
          rintro ⟨⟨hpos, hnull⟩, hnumber, rfl⟩
          rcases hskip with hzero | hzero | hlarge
          · exact hnumber hzero
          · omega
          · omega
        rw [ih _ (by omega) h rfl]
        grind
      · have husable : pidOfBytes pidHigh.toNat pidLow.toNat = pid → Usable pid := by
          rintro rfl
          unfold Usable
          omega
        rw [ih _ (by omega) h rfl, Finset.mem_insert]
        grind
    · have hshort : (bytesFrom sec (sec.length - 4) i).length < 4 := by
        rw [length_bytesFrom (Nat.sub_le _ _)]
        omega
      rw [if_neg hi] at h
      rw [← Option.some.inj h, programsIn_of_lt hshort]
      simp

theorem caidAllowed_iff (caidFilter : Finset ℕ) (caid : ℕ) :
    caidAllowed caidFilter caid = true ↔ caidFilter = ∅ ∨ caid ∈ caidFilter := by
  unfold caidAllowed
  by_cases h : caidFilter = ∅ <;> simp [h]

theorem mem_caDescriptor_iff {tag dlen : ℕ} (hfits : pos + 2 + dlen ≤ p.length)
    (h : caDescriptor caidFilter p pos tag dlen out = some found) :
    pid ∈ found ↔ pid ∈ out ∨
      Usable pid ∧ NamesCaPid caidFilter (tag, bytesFrom p (pos + 2 + dlen) (pos + 2)) pid := by
  unfold caDescriptor at h
  by_cases hca : tag = 0x09 ∧ 4 ≤ dlen
  · obtain ⟨rfl, hlong⟩ := hca
    simp only [hlong, and_self, if_true, Option.bind_eq_bind, Option.bind_eq_some_iff] at h
    obtain ⟨_, h2, _, h3, _, h4, _, h5, h⟩ := h
    obtain ⟨caidHigh, rfl, hcaidHigh⟩ := bytesFrom_cons (pos + 2 + dlen) (by omega) h2
    obtain ⟨caidLow, rfl, hcaidLow⟩ := bytesFrom_cons (pos + 2 + dlen) (by omega) h3
    obtain ⟨pidHigh, rfl, hpidHigh⟩ := bytesFrom_cons (pos + 2 + dlen) (by omega) h4
    obtain ⟨pidLow, rfl, hpidLow⟩ := bytesFrom_cons (pos + 2 + dlen) (by omega) h5
    have hnames : NamesCaPid caidFilter (0x09, bytesFrom p (pos + 2 + dlen) (pos + 2)) pid ↔
        (caidFilter = ∅ ∨ (caidHigh.toNat <<< 8) ||| caidLow.toNat ∈ caidFilter) ∧
          pidOfBytes pidHigh.toNat pidLow.toNat = pid := by
      rw [hcaidHigh, hcaidLow, hpidHigh, hpidLow]
      constructor
      · rintro ⟨-, _, _, _, _, _, hbytes, hallowed, hpid⟩
        simp only [List.cons.injEq] at hbytes
        obtain ⟨rfl, rfl, rfl, rfl, -⟩ := hbytes
        exact ⟨hallowed, hpid⟩
      · rintro ⟨hallowed, hpid⟩
        exact ⟨rfl, _, _, _, _, _, rfl, hallowed, hpid⟩
    rw [hnames, ← caidAllowed_iff]
    split_ifs at h with hok
    · obtain rfl := Option.some.inj h
      have husable : pidOfBytes pidHigh.toNat pidLow.toNat = pid → Usable pid := by
        rintro rfl
        exact ⟨hok.1, hok.2.1⟩
      rw [Finset.mem_insert]
      grind
    · obtain rfl := Option.some.inj h
      have hunusable : ¬(Usable pid ∧ caidAllowed caidFilter
            ((caidHigh.toNat <<< 8) ||| caidLow.toNat) = true ∧
          pidOfBytes pidHigh.toNat pidLow.toNat = pid) := by
        rintro ⟨⟨hpos, hnull⟩, hallowed, rfl⟩
        exact hok ⟨hpos, hnull, hallowed⟩
      grind
  · have hnames : ¬NamesCaPid caidFilter (tag, bytesFrom p (pos + 2 + dlen) (pos + 2)) pid := by
      rintro ⟨htag, _, _, _, _, _, hbytes, -⟩
      have hlen := length_bytesFrom hfits (pos + 2)
      simp only at htag hbytes
      rw [hbytes] at hlen
      simp only [List.length_cons] at hlen
      exact hca ⟨htag, by omega⟩
    rw [if_neg hca] at h
    rw [← Option.some.inj h]
    grind

theorem descriptorsIn_of_lt {bytes : List UInt8} (h : bytes.length < 2) :
    descriptorsIn bytes = [] := by
  unfold descriptorsIn
  split
  · simp only [List.length_cons] at h
    omega
  · rfl

theorem mem_collectCaDescriptorsFrom_iff
    (h : collectCaDescriptorsFrom caidFilter p pos out = some found) :
    pid ∈ found ↔ pid ∈ out ∨ Usable pid ∧
      ∃ descriptor ∈ descriptorsIn (bytesFrom p p.length pos),
        NamesCaPid caidFilter descriptor pid := by
  induction hleft : p.length - pos using Nat.strong_induction_on generalizing pos out with
  | _ n ih =>
    unfold collectCaDescriptorsFrom at h
    by_cases hpos : pos + 2 ≤ p.length
    · simp only [hpos, if_true, Option.bind_eq_bind, Option.bind_eq_some_iff] at h
      obtain ⟨_, h0, _, h1, h⟩ := h
      obtain ⟨tag, rfl, htag⟩ := bytesFrom_cons p.length (by omega) h0
      obtain ⟨size, rfl, hsize⟩ := bytesFrom_cons p.length (by omega) h1
      have hlen := length_bytesFrom (Nat.le_refl p.length) (pos + 1 + 1)
      rw [htag, hsize, descriptorsIn, hlen]
      by_cases hend : p.length < pos + 2 + size.toNat
      · rw [if_pos hend] at h
        rw [if_pos (by omega), ← Option.some.inj h]
        simp
      · rw [if_neg hend] at h
        obtain ⟨mid, hmid, h⟩ := Option.bind_eq_some_iff.mp h
        rw [if_neg (by omega), drop_bytesFrom, take_bytesFrom (by omega), ih _ (by omega) h rfl,
          mem_caDescriptor_iff (by omega) hmid]
        simp only [List.mem_cons, exists_eq_or_imp]
        grind
    · have hshort : (bytesFrom p p.length pos).length < 2 := by
        rw [length_bytesFrom (Nat.le_refl _)]
        omega
      rw [if_neg hpos] at h
      rw [← Option.some.inj h, descriptorsIn_of_lt hshort]
      simp

theorem bytesFrom_zero (p : List UInt8) : bytesFrom p p.length 0 = p := by
  rw [bytesFrom, List.take_length, List.drop_zero]

/-- The pids that `collectCaDescriptors` adds are the usable ones that a descriptor names. -/
theorem mem_collectCaDescriptors_iff (h : collectCaDescriptors caidFilter p out = some found) :
    pid ∈ found ↔ pid ∈ out ∨
      Usable pid ∧ ∃ descriptor ∈ descriptorsIn p, NamesCaPid caidFilter descriptor pid := by
  rw [mem_collectCaDescriptorsFrom_iff h, bytesFrom_zero]

theorem streamsIn_of_lt {bytes : List UInt8} (h : bytes.length < 5) : streamsIn bytes = [] := by
  unfold streamsIn
  split
  · simp only [List.length_cons] at h
    omega
  · rfl

@[simp]
theorem descriptorsIn_nil : descriptorsIn [] = [] := descriptorsIn_of_lt (by simp)

/-- One more stream in front. -/
theorem exists_stream_cons (esPid : ℕ) (body : List UInt8) (streams : List (ℕ × List UInt8)) :
    (∃ info, (pid, info) ∈ (esPid, body) :: streams) ↔
      esPid = pid ∨ ∃ info, (pid, info) ∈ streams := by
  simp only [List.mem_cons, Prod.mk.injEq]
  constructor
  · rintro ⟨info, ⟨rfl, rfl⟩ | hmem⟩
    · exact Or.inl rfl
    · exact Or.inr ⟨info, hmem⟩
  · rintro (rfl | ⟨info, hmem⟩)
    · exact ⟨body, Or.inl ⟨rfl, rfl⟩⟩
    · exact ⟨info, Or.inr hmem⟩

theorem mem_pmtStreamsFrom_iff (pid : ℕ) {ecm es ecm' es' : Finset ℕ} (hfin : fin ≤ sec.length)
    (h : pmtStreamsFrom caidFilter sec fin pos ecm es = some (ecm', es')) :
    (pid ∈ ecm' ↔ pid ∈ ecm ∨ Usable pid ∧ ∃ stream ∈ streamsIn (bytesFrom sec fin pos),
        ∃ descriptor ∈ descriptorsIn stream.2, NamesCaPid caidFilter descriptor pid) ∧
      (pid ∈ es' ↔ pid ∈ es ∨ Usable pid ∧
        ∃ info, (pid, info) ∈ streamsIn (bytesFrom sec fin pos)) := by
  induction hleft : fin - pos using Nat.strong_induction_on generalizing pos ecm es with
  | _ n ih =>
    unfold pmtStreamsFrom at h
    by_cases hpos : pos + 5 ≤ fin
    · obtain ⟨b0, -, h0⟩ := exists_byteAt (show pos < sec.length by omega)
      simp only [hpos, if_true, Option.bind_eq_bind, Option.bind_eq_some_iff] at h
      obtain ⟨_, h1, _, h2, _, h3, _, h4, h⟩ := h
      obtain ⟨streamType, -, htype⟩ := bytesFrom_cons fin (by omega) h0
      obtain ⟨pidHigh, rfl, hpidHigh⟩ := bytesFrom_cons fin (by omega) h1
      obtain ⟨pidLow, rfl, hpidLow⟩ := bytesFrom_cons fin (by omega) h2
      obtain ⟨lengthHigh, rfl, hlengthHigh⟩ := bytesFrom_cons fin (by omega) h3
      obtain ⟨lengthLow, rfl, hlengthLow⟩ := bytesFrom_cons fin (by omega) h4
      have hlen := length_bytesFrom hfin (pos + 4 + 1)
      set esPid := pidOfBytes pidHigh.toNat pidLow.toNat with hesPid
      set size := lengthOfBytes lengthHigh.toNat lengthLow.toNat with hsize
      have hinsert : pid ∈ (if 0 < esPid ∧ esPid < psiPidNull then insert esPid es else es) ↔
          pid ∈ es ∨ Usable pid ∧ esPid = pid := by
        split_ifs with hok
        · have husable : esPid = pid → Usable pid := by
            rintro rfl
            exact hok
          rw [Finset.mem_insert]
          grind
        · have hunusable : ¬(Usable pid ∧ esPid = pid) := by
            rintro ⟨husable, rfl⟩
            exact hok husable
          grind
      rw [htype, hpidHigh, hpidLow, hlengthHigh, hlengthLow, streamsIn, hlen, ← hesPid, ← hsize]
      by_cases hend : fin < pos + 5 + size
      · rw [if_pos hend] at h
        obtain ⟨rfl, rfl⟩ := Prod.mk.inj (Option.some.inj h)
        rw [if_pos (by omega), hinsert]
        refine ⟨by simp, ?_⟩
        rw [exists_stream_cons]
        simp
      · rw [if_neg hend] at h
        obtain ⟨part, hpart, h⟩ := Option.bind_eq_some_iff.mp h
        obtain ⟨mid, hmid, h⟩ := Option.bind_eq_some_iff.mp h
        obtain ⟨hecm, hes⟩ := ih _ (by omega) h rfl
        rw [if_neg (by omega), drop_bytesFrom, take_bytesFrom (by omega), hecm, hes, hinsert,
          mem_collectCaDescriptors_iff hmid, bytesFrom_of_slice hpart]
        rw [exists_stream_cons]
        simp only [List.mem_cons, exists_eq_or_imp]
        constructor
        · rw [or_assoc, ← and_or_left]
        · rw [or_assoc, ← and_or_left]
    · have hshort : (bytesFrom sec fin pos).length < 5 := by
        rw [length_bytesFrom hfin]
        omega
      rw [if_neg hpos] at h
      obtain ⟨rfl, rfl⟩ := Prod.mk.inj (Option.some.inj h)
      rw [streamsIn_of_lt hshort]
      simp

/-! ## The sections -/

/-- The PMT pids of a PAT section are those it lists. -/
theorem mem_patPrograms_iff (h : patProgramsFrom sec 8 ∅ = some found) :
    pid ∈ found ↔ Usable pid ∧ ListsPmtPid sec pid := by
  rw [mem_patProgramsFrom_iff h, ListsPmtPid]
  simp

/-- The EMM pids of a CAT section are those it names. -/
theorem mem_emmPids_iff {descriptors : List UInt8} (hsec : 12 ≤ sec.length)
    (hslice : slice sec 8 (sec.length - 4 - 8) = some descriptors)
    (h : collectCaDescriptors caidFilter descriptors ∅ = some found) :
    pid ∈ found ↔ Usable pid ∧ NamesEmmPid caidFilter sec pid := by
  have hend : 8 + (sec.length - 4 - 8) = sec.length - 4 := by omega
  rw [mem_collectCaDescriptors_iff h, bytesFrom_of_slice hslice, hend, NamesEmmPid]
  simp

/-- The pids that `parsePMT` stores are those that the section names and lists. -/
theorem mem_pmtStored_iff {t : Tables} {pmtPid version : ℕ} {ecmPids esPids : Finset ℕ}
    (h : t.pmtStored pmtPid sec = some (version, ecmPids, esPids)) :
    (pid ∈ ecmPids ↔ Usable pid ∧ NamesEcmPid t.caidFilter sec pid) ∧
      (pid ∈ esPids ↔ Usable pid ∧ ListsEsPid sec pid) := by
  simp only [pmtStored, Option.bind_eq_bind, Option.bind_eq_some_iff] at h
  obtain ⟨flags, -, high, hhigh, low, hlow, h⟩ := h
  split_ifs at h with hnew
  obtain ⟨contents, hcontents, heq⟩ := Option.map_eq_some_iff.mp h
  obtain rfl := (Prod.mk.inj heq).2
  simp only [pmtContents, Option.bind_eq_bind, Option.bind_eq_some_iff] at hcontents
  obtain ⟨part, hpart, mid, hmid, hstreams⟩ := hcontents
  obtain ⟨hecm, hes⟩ := mem_pmtStreamsFrom_iff pid (Nat.sub_le _ _) hstreams
  rw [mem_collectCaDescriptors_iff hmid, bytesFrom_of_slice hpart] at hecm
  constructor
  · rw [hecm]
    constructor
    · rintro ((hnone | ⟨husable, hnames⟩) | ⟨husable, hnames⟩)
      · simp at hnone
      · exact ⟨husable, high, low, hhigh, hlow, Or.inl hnames⟩
      · exact ⟨husable, high, low, hhigh, hlow, Or.inr hnames⟩
    · rintro ⟨husable, high', low', hhigh', hlow', hnames⟩
      obtain rfl := Option.some.inj (hhigh.symm.trans hhigh')
      obtain rfl := Option.some.inj (hlow.symm.trans hlow')
      rcases hnames with hinfo | hstream
      · exact Or.inl (Or.inr ⟨husable, hinfo⟩)
      · exact Or.inr ⟨husable, hstream⟩
  · rw [hes]
    constructor
    · rintro (hnone | ⟨husable, info, hlists⟩)
      · simp at hnone
      · exact ⟨husable, high, low, info, hhigh, hlow, hlists⟩
    · rintro ⟨husable, high', low', info, hhigh', hlow', hlists⟩
      obtain rfl := Option.some.inj (hhigh.symm.trans hhigh')
      obtain rfl := Option.some.inj (hlow.symm.trans hlow')
      exact Or.inr ⟨husable, info, hlists⟩

/-! ## What the tables have learned -/

/-- Every pid that the tables hold has the property of its kind. -/
structure Learned (Pmt Emm Ecm Es : ℕ → Prop) (t : Tables) : Prop where
  pmt : ∀ number pids, t.patSections number = some pids → ∀ pid ∈ pids, Pmt pid
  emm : ∀ number pids, t.catSections number = some pids → ∀ pid ∈ pids, Emm pid
  ecm : ∀ pmtPid info, t.pmt pmtPid = some info → ∀ pid ∈ info.ecmPids, Ecm pid
  es : ∀ pmtPid info, t.pmt pmtPid = some info → ∀ pid ∈ info.esPids, Es pid

/-- What a section announces, to a parser with this filter, has the property of its kind. -/
structure Announces (Pmt Emm Ecm Es : ℕ → Prop) (caidFilter : Finset ℕ) (pmtPid : ℕ)
    (sec : List UInt8) : Prop where
  pmt : pmtPid = psiPidPat → IsTable sec 0x00 → ∀ pid, Usable pid → ListsPmtPid sec pid → Pmt pid
  emm : pmtPid = psiPidCat → IsTable sec 0x01 → ∀ pid, Usable pid →
    NamesEmmPid caidFilter sec pid → Emm pid
  ecm : pmtPid ≠ psiPidPat → pmtPid ≠ psiPidCat → IsTable sec 0x02 → ∀ pid, Usable pid →
    NamesEcmPid caidFilter sec pid → Ecm pid
  es : pmtPid ≠ psiPidPat → pmtPid ≠ psiPidCat → IsTable sec 0x02 → ∀ pid, Usable pid →
    ListsEsPid sec pid → Es pid

variable {Pmt Emm Ecm Es : ℕ → Prop} {t t' : Tables}

theorem Learned.mono {Pmt' Emm' Ecm' Es' : ℕ → Prop} (h : Learned Pmt Emm Ecm Es t)
    (hpmt : ∀ pid, Pmt pid → Pmt' pid) (hemm : ∀ pid, Emm pid → Emm' pid)
    (hecm : ∀ pid, Ecm pid → Ecm' pid) (hes : ∀ pid, Es pid → Es' pid) :
    Learned Pmt' Emm' Ecm' Es' t where
  pmt number pids hstored pid hpid := hpmt pid (h.pmt number pids hstored pid hpid)
  emm number pids hstored pid hpid := hemm pid (h.emm number pids hstored pid hpid)
  ecm pmtPid info hstored pid hpid := hecm pid (h.ecm pmtPid info hstored pid hpid)
  es pmtPid info hstored pid hpid := hes pid (h.es pmtPid info hstored pid hpid)

theorem Learned.infoOf (h : Learned Pmt Emm Ecm Es t) (pmtPid : ℕ) :
    (∀ pid ∈ (t.infoOf pmtPid).ecmPids, Ecm pid) ∧ ∀ pid ∈ (t.infoOf pmtPid).esPids, Es pid := by
  unfold Tables.infoOf
  cases hinfo : t.pmt pmtPid with
  | none => simp
  | some info => exact ⟨h.ecm pmtPid info hinfo, h.es pmtPid info hinfo⟩

/-- One entry of `m_pmt` is set. -/
theorem Learned.of_update (h : Learned Pmt Emm Ecm Es t) {pmtPid : ℕ} {info : PmtInfo}
    (hecm : ∀ pid ∈ info.ecmPids, Ecm pid) (hes : ∀ pid ∈ info.esPids, Es pid) (dirty : Bool) :
    Learned Pmt Emm Ecm Es
      { t with pmt := Function.update t.pmt pmtPid (some info), dirty := dirty } where
  pmt := h.pmt
  emm := h.emm
  ecm other stored hstored := by
    rcases update_eq_some hstored with ⟨-, rfl⟩ | ⟨-, hold⟩
    · exact hecm
    · exact h.ecm other stored hold
  es other stored hstored := by
    rcases update_eq_some hstored with ⟨-, rfl⟩ | ⟨-, hold⟩
    · exact hes
    · exact h.es other stored hold

/-- A PAT section adds nothing to what is known of a service. -/
theorem pmt_of_withPatSection {version number pmtPid : ℕ} {pids : Finset ℕ} {info : PmtInfo}
    (h : (t.withPatSection version number pids).pmt pmtPid = some info) :
    t.pmt pmtPid = some info := by
  unfold withPatSection at h
  dsimp only at h
  split_ifs at h with hall
  · exact h
  · exact ((eraseUnlisted_eq_some_iff _ _ _ _).mp h).2

/-- A section brings what it announces into the tables, and nothing else. -/
theorem Learned.handleSection (h : Learned Pmt Emm Ecm Es t) (hsec : 12 ≤ sec.length)
    {pmtPid : ℕ} (hannounces : Announces Pmt Emm Ecm Es t.caidFilter pmtPid sec)
    (hhandle : handleSection pmtPid sec t = some t') : Learned Pmt Emm Ecm Es t' := by
  have hcount : Learned Pmt Emm Ecm Es t.countSection := ⟨h.pmt, h.emm, h.ecm, h.es⟩
  rcases handleSection_cases hhandle with rfl | rfl | rfl | ⟨hpid, htable, hparse⟩ |
    ⟨hpid, htable, hparse⟩ | ⟨hpat, hcat, htable, hparse⟩
  · exact h
  · exact ⟨h.pmt, h.emm, h.ecm, h.es⟩
  · exact hcount
  · obtain ⟨flags, number, pids, -, -, hpids, rfl⟩ := parsePAT_cases hparse
    refine ⟨fun place found hfound ↦ ?_, h.emm, fun other info hinfo ↦ ?_,
      fun other info hinfo ↦ ?_⟩
    · rcases enter_cases hfound with ⟨-, rfl⟩ | ⟨-, hstored⟩
      · intro pid hpidmem
        obtain ⟨husable, hlists⟩ := (mem_patPrograms_iff hpids).mp hpidmem
        exact hannounces.pmt hpid htable pid husable hlists
      · exact h.pmt place found hstored
    · exact h.ecm other info (pmt_of_withPatSection hinfo)
    · exact h.es other info (pmt_of_withPatSection hinfo)
  · obtain ⟨flags, number, descriptors, pids, -, -, hdescriptors, hpids, rfl⟩ :=
      parseCAT_cases hparse
    refine ⟨h.pmt, fun place found hfound ↦ ?_, h.ecm, h.es⟩
    rcases enter_cases hfound with ⟨-, rfl⟩ | ⟨-, hstored⟩
    · intro pid hpidmem
      obtain ⟨husable, hnames⟩ := (mem_emmPids_iff hsec hdescriptors hpids).mp hpidmem
      exact hannounces.emm hpid htable pid husable hnames
    · exact h.emm place found hstored
  · rcases parsePMT_cases hparse with ⟨-, rfl⟩ | ⟨version, ecmPids, esPids, hstored, rfl⟩
    · obtain ⟨hecm, hes⟩ := hcount.infoOf pmtPid
      exact hcount.of_update hecm hes _
    · apply hcount.of_update
      · intro pid hpidmem
        obtain ⟨husable, hnames⟩ := (mem_pmtStored_iff hstored).1.mp hpidmem
        exact hannounces.ecm hpat hcat htable pid husable hnames
      · intro pid hpidmem
        obtain ⟨husable, hlists⟩ := (mem_pmtStored_iff hstored).2.mp hpidmem
        exact hannounces.es hpat hcat htable pid husable hlists

end Tables

end SatipClient.PSI
