import SatipClient.PSI.Announced
import SatipClient.PSI.Checksum

/-!
# Well-formed sections

PAT, CAT and PMT sections as a multiplexer writes them, down to their bytes.  Every length field
and the checksum are those of what they stand for, so a section of these types cannot be malformed;
reserved bits are arbitrary.  The layout of `SatipClient.PSI.Announced` finds in the bytes of such
a section what went into it, and so does `parsePMT` (`parsePMT_exact`).
-/

namespace SatipClient.PSI

open Checked
open Tables (descriptorsIn streamsIn programsIn bytesFrom versionOf IsTable NamesCaPid ListsPmtPid
  NamesEmmPid NamesEcmPid ListsEsPid)

/-! ## The parts of a section -/

/-- A descriptor, with a body of up to 255 bytes. -/
structure Descriptor where
  tag : UInt8
  size : UInt8
  body : List UInt8
  size_eq : size.toNat = body.length

/-- The tag, the length and the body. -/
def Descriptor.bytes (descriptor : Descriptor) : List UInt8 :=
  descriptor.tag :: descriptor.size :: descriptor.body

/-- A list of descriptors, one behind the other. -/
def descriptorBytes (descriptors : List Descriptor) : List UInt8 :=
  descriptors.flatMap Descriptor.bytes

/-- The descriptor is a CA descriptor that names this pid, for a CA system that is allowed. -/
def Descriptor.NamesCaPid (descriptor : Descriptor) (caidFilter : Finset ℕ) (pid : ℕ) : Prop :=
  Tables.NamesCaPid caidFilter (descriptor.tag.toNat, descriptor.body) pid

/-- An entry of a PAT. -/
structure PatEntry where
  numberHigh : UInt8
  numberLow : UInt8
  pidHigh : UInt8
  pidLow : UInt8

namespace PatEntry

def bytes (entry : PatEntry) : List UInt8 :=
  [entry.numberHigh, entry.numberLow, entry.pidHigh, entry.pidLow]

def programNumber (entry : PatEntry) : ℕ := (entry.numberHigh.toNat <<< 8) ||| entry.numberLow.toNat

def pid (entry : PatEntry) : ℕ := pidOfBytes entry.pidHigh.toNat entry.pidLow.toNat

end PatEntry

/-- An elementary stream of a PMT, with any descriptors. -/
structure ElementaryStream where
  streamType : UInt8
  pidHigh : UInt8
  pidLow : UInt8
  lengthHigh : UInt8
  lengthLow : UInt8
  descriptors : List Descriptor
  length_eq : lengthOfBytes lengthHigh.toNat lengthLow.toNat = (descriptorBytes descriptors).length

namespace ElementaryStream

def bytes (stream : ElementaryStream) : List UInt8 :=
  [stream.streamType, stream.pidHigh, stream.pidLow, stream.lengthHigh, stream.lengthLow] ++
    descriptorBytes stream.descriptors

def pid (stream : ElementaryStream) : ℕ := pidOfBytes stream.pidHigh.toNat stream.pidLow.toNat

end ElementaryStream

/-! ## Sections -/

/-- The eight bytes that all three tables begin with. -/
structure Header where
  tableId : UInt8
  lengthHigh : UInt8
  lengthLow : UInt8
  extensionHigh : UInt8
  extensionLow : UInt8
  flags : UInt8
  number : UInt8
  lastNumber : UInt8

def Header.bytes (header : Header) : List UInt8 :=
  [header.tableId, header.lengthHigh, header.lengthLow, header.extensionHigh, header.extensionLow,
    header.flags, header.number, header.lastNumber]

/-- A section with the section syntax, of the length that it says and with its checksum. -/
structure Section where
  header : Header
  body : List UInt8
  crc0 : UInt8
  crc1 : UInt8
  crc2 : UInt8
  crc3 : UInt8
  syntax_bit : header.lengthHigh.toNat &&& 0x80 ≠ 0
  length_eq : lengthOfBytes header.lengthHigh.toNat header.lengthLow.toNat = 5 + body.length + 4
  length_le : 5 + body.length + 4 ≤ 4093
  crc_eq : word crc0 crc1 crc2 crc3 = crc32Calc (header.bytes ++ body)

namespace Section

def bytes (sec : Section) : List UInt8 :=
  sec.header.bytes ++ sec.body ++ [sec.crc0, sec.crc1, sec.crc2, sec.crc3]

def version (sec : Section) : ℕ := versionOf sec.header.flags.toNat

/-- `current_next_indicator` -/
def Current (sec : Section) : Prop := sec.header.flags.toNat &&& 0x01 ≠ 0

end Section

/-- A PAT section. -/
structure PatSection extends Section where
  entries : List PatEntry
  tableId_eq : header.tableId = 0x00
  body_eq : body = entries.flatMap PatEntry.bytes

/-- A CAT section. -/
structure CatSection extends Section where
  descriptors : List Descriptor
  tableId_eq : header.tableId = 0x01
  body_eq : body = descriptorBytes descriptors

/-- A PMT section. -/
structure PmtSection extends Section where
  pcrPidHigh : UInt8
  pcrPidLow : UInt8
  infoLengthHigh : UInt8
  infoLengthLow : UInt8
  programInfo : List Descriptor
  streams : List ElementaryStream
  tableId_eq : header.tableId = 0x02
  infoLength_eq : lengthOfBytes infoLengthHigh.toNat infoLengthLow.toNat =
    (descriptorBytes programInfo).length
  body_eq : body = [pcrPidHigh, pcrPidLow, infoLengthHigh, infoLengthLow] ++
    descriptorBytes programInfo ++ streams.flatMap ElementaryStream.bytes

/-- The descriptors of a PMT section, those of the program and those of its streams. -/
def PmtSection.descriptors (sec : PmtSection) : List Descriptor :=
  sec.programInfo ++ sec.streams.flatMap ElementaryStream.descriptors

/-! ## Reading them back -/

theorem descriptorBytes_cons (descriptor : Descriptor) (descriptors : List Descriptor) :
    descriptorBytes (descriptor :: descriptors) =
      descriptor.tag :: descriptor.size :: (descriptor.body ++ descriptorBytes descriptors) :=
  List.flatMap_cons

theorem descriptorsIn_descriptorBytes (descriptors : List Descriptor) :
    descriptorsIn (descriptorBytes descriptors) =
      descriptors.map fun descriptor ↦ (descriptor.tag.toNat, descriptor.body) := by
  induction descriptors with
  | nil => exact Tables.descriptorsIn_nil
  | cons descriptor descriptors ih =>
    have hfits : ¬(descriptor.body ++ descriptorBytes descriptors).length <
        descriptor.size.toNat := by
      rw [List.length_append, descriptor.size_eq]
      omega
    rw [descriptorBytes_cons, descriptorsIn, if_neg hfits, List.take_left' descriptor.size_eq.symm,
      List.drop_left' descriptor.size_eq.symm, ih, List.map_cons]

theorem streamsIn_flatMap_bytes (streams : List ElementaryStream) :
    streamsIn (streams.flatMap ElementaryStream.bytes) =
      streams.map fun stream ↦ (stream.pid, descriptorBytes stream.descriptors) := by
  induction streams with
  | nil => exact Tables.streamsIn_of_lt (by simp)
  | cons stream streams ih =>
    have hbytes : (stream :: streams).flatMap ElementaryStream.bytes =
        stream.streamType :: stream.pidHigh :: stream.pidLow :: stream.lengthHigh ::
          stream.lengthLow :: (descriptorBytes stream.descriptors ++
            streams.flatMap ElementaryStream.bytes) := by
      simp [ElementaryStream.bytes]
    have hfits : ¬(descriptorBytes stream.descriptors ++
        streams.flatMap ElementaryStream.bytes).length <
          lengthOfBytes stream.lengthHigh.toNat stream.lengthLow.toNat := by
      rw [List.length_append, stream.length_eq]
      omega
    rw [hbytes, streamsIn, if_neg hfits, List.take_left' stream.length_eq.symm,
      List.drop_left' stream.length_eq.symm, ih, List.map_cons, ElementaryStream.pid]

theorem programsIn_flatMap_bytes (entries : List PatEntry) :
    programsIn (entries.flatMap PatEntry.bytes) =
      entries.map fun entry ↦ (entry.programNumber, entry.pid) := by
  induction entries with
  | nil => rfl
  | cons entry entries ih =>
    have hbytes : (entry :: entries).flatMap PatEntry.bytes =
        entry.numberHigh :: entry.numberLow :: entry.pidHigh :: entry.pidLow ::
          entries.flatMap PatEntry.bytes := rfl
    rw [hbytes, programsIn, ih, List.map_cons, PatEntry.programNumber, PatEntry.pid]

namespace Section

variable (sec : Section)

theorem length_bytes : sec.bytes.length = sec.body.length + 12 := by
  simp [bytes, Header.bytes]

/-- The assembler takes it for a section. -/
theorem isSection : IsSection sec.bytes := by
  have hlength := sec.length_bytes
  have hle := sec.length_le
  have hsize : sectionSize sec.bytes = some (5 + sec.body.length + 4 + 3) := by
    rw [← sec.length_eq]
    rfl
  refine ⟨by rw [hsize, hlength]; congr 1; omega, ?_, ?_⟩
  · omega
  · simp only [psiMaxSectionLen]
    omega

theorem crc32Calc_bytes : crc32Calc sec.bytes = 0 :=
  (crc32Calc_append_eq_zero_iff _ _ _ _ _).mpr sec.crc_eq

/-- What is between the header and the checksum. -/
theorem bytesFrom_bytes : bytesFrom sec.bytes (sec.bytes.length - 4) 8 = sec.body := by
  have hlength : sec.bytes.length - 4 = (sec.header.bytes ++ sec.body).length := by
    rw [length_bytes]
    simp [Header.bytes]
  rw [bytesFrom, hlength, bytes, List.take_left]
  exact List.drop_left' rfl

theorem byteAt_flags : byteAt sec.bytes 5 = some sec.header.flags.toNat := rfl

theorem byteAt_number : byteAt sec.bytes 6 = some sec.header.number.toNat := rfl

/-- A section that applies is a complete one of its table. -/
theorem isTable (hcurrent : sec.Current) : IsTable sec.bytes sec.header.tableId.toNat where
  tableId_eq := rfl
  syntax_bit := ⟨_, rfl, sec.syntax_bit⟩
  crc := sec.crc32Calc_bytes
  current_next := ⟨_, rfl, hcurrent⟩

end Section

/-- A pid that the section lists is that of an entry of a program. -/
theorem PatSection.listsPmtPid_iff (sec : PatSection) (pid : ℕ) :
    ListsPmtPid sec.bytes pid ↔
      ∃ entry ∈ sec.entries, entry.programNumber ≠ 0 ∧ entry.pid = pid := by
  rw [ListsPmtPid, sec.bytesFrom_bytes, sec.body_eq, programsIn_flatMap_bytes]
  simp only [List.mem_map, Prod.mk.injEq]
  constructor
  · rintro ⟨number, hnumber, entry, hentry, rfl, rfl⟩
    exact ⟨entry, hentry, hnumber, rfl⟩
  · rintro ⟨entry, hentry, hnumber, rfl⟩
    exact ⟨entry.programNumber, hnumber, entry, hentry, rfl, rfl⟩

theorem exists_names_descriptorsIn_iff (descriptors : List Descriptor) (caidFilter : Finset ℕ)
    (pid : ℕ) :
    (∃ found ∈ descriptorsIn (descriptorBytes descriptors), NamesCaPid caidFilter found pid) ↔
      ∃ descriptor ∈ descriptors, descriptor.NamesCaPid caidFilter pid := by
  rw [descriptorsIn_descriptorBytes]
  simp only [List.mem_map, exists_exists_and_eq_and]
  rfl

theorem CatSection.namesEmmPid_iff (sec : CatSection) (caidFilter : Finset ℕ) (pid : ℕ) :
    NamesEmmPid caidFilter sec.bytes pid ↔
      ∃ descriptor ∈ sec.descriptors, descriptor.NamesCaPid caidFilter pid := by
  rw [NamesEmmPid, sec.bytesFrom_bytes, sec.body_eq, exists_names_descriptorsIn_iff]

namespace PmtSection

variable (sec : PmtSection)

theorem byteAt_infoLengthHigh : byteAt sec.bytes 10 = some sec.infoLengthHigh.toNat := by
  have hbody := sec.body_eq
  simp [Section.bytes, Header.bytes, hbody, byteAt]

theorem byteAt_infoLengthLow : byteAt sec.bytes 11 = some sec.infoLengthLow.toNat := by
  have hbody := sec.body_eq
  simp [Section.bytes, Header.bytes, hbody, byteAt]

theorem length_body : sec.body.length = 4 + (descriptorBytes sec.programInfo).length +
    (sec.streams.flatMap ElementaryStream.bytes).length := by
  rw [sec.body_eq]
  simp only [List.length_append, List.length_cons, List.length_nil]

theorem length_le_bytes :
    12 + lengthOfBytes sec.infoLengthHigh.toNat sec.infoLengthLow.toNat + 4 ≤
      sec.bytes.length := by
  rw [sec.length_bytes, sec.length_body, sec.infoLength_eq]
  omega

/-- From the descriptors of the program on. -/
theorem bytesFrom_info : bytesFrom sec.bytes (sec.bytes.length - 4) 12 =
    descriptorBytes sec.programInfo ++ sec.streams.flatMap ElementaryStream.bytes := by
  have hbody := sec.bytesFrom_bytes
  have hdrop := Tables.drop_bytesFrom sec.bytes (sec.bytes.length - 4) 8 4
  rw [← hdrop, hbody, sec.body_eq]
  rfl

theorem bytesFrom_programInfo :
    bytesFrom sec.bytes (12 + lengthOfBytes sec.infoLengthHigh.toNat sec.infoLengthLow.toNat) 12 =
      descriptorBytes sec.programInfo := by
  have hfits := sec.length_le_bytes
  have htake : (bytesFrom sec.bytes (sec.bytes.length - 4) 12).take
        (lengthOfBytes sec.infoLengthHigh.toNat sec.infoLengthLow.toNat) =
      bytesFrom sec.bytes
        (12 + lengthOfBytes sec.infoLengthHigh.toNat sec.infoLengthLow.toNat) 12 :=
    Tables.take_bytesFrom (by omega)
  rw [← htake, sec.bytesFrom_info, sec.infoLength_eq, List.take_left]

theorem streamsOf_bytes :
    Tables.streamsOf sec.bytes
        (lengthOfBytes sec.infoLengthHigh.toNat sec.infoLengthLow.toNat) =
      sec.streams.map fun stream ↦ (stream.pid, descriptorBytes stream.descriptors) := by
  rw [Tables.streamsOf, ← Tables.drop_bytesFrom, sec.bytesFrom_info, sec.infoLength_eq,
    List.drop_left, streamsIn_flatMap_bytes]

theorem listsEsPid_iff (pid : ℕ) :
    ListsEsPid sec.bytes pid ↔ ∃ stream ∈ sec.streams, stream.pid = pid := by
  constructor
  · rintro ⟨high, low, info, hhigh, hlow, hlists⟩
    obtain rfl := Option.some.inj (sec.byteAt_infoLengthHigh.symm.trans hhigh)
    obtain rfl := Option.some.inj (sec.byteAt_infoLengthLow.symm.trans hlow)
    rw [streamsOf_bytes] at hlists
    obtain ⟨stream, hstream, heq⟩ := List.mem_map.mp hlists
    exact ⟨stream, hstream, (Prod.mk.inj heq).1⟩
  · rintro ⟨stream, hstream, rfl⟩
    refine ⟨_, _, descriptorBytes stream.descriptors, sec.byteAt_infoLengthHigh,
      sec.byteAt_infoLengthLow, ?_⟩
    rw [streamsOf_bytes]
    exact List.mem_map.mpr ⟨stream, hstream, rfl⟩

theorem namesEcmPid_iff (caidFilter : Finset ℕ) (pid : ℕ) :
    NamesEcmPid caidFilter sec.bytes pid ↔
      ∃ descriptor ∈ sec.descriptors, descriptor.NamesCaPid caidFilter pid := by
  have hnames : NamesEcmPid caidFilter sec.bytes pid ↔
      (∃ descriptor ∈ sec.programInfo, descriptor.NamesCaPid caidFilter pid) ∨
        ∃ stream ∈ sec.streams, ∃ descriptor ∈ stream.descriptors,
          descriptor.NamesCaPid caidFilter pid := by
    rw [NamesEcmPid, sec.byteAt_infoLengthHigh, sec.byteAt_infoLengthLow]
    simp only [Option.some.injEq, exists_and_left, exists_eq_left']
    rw [sec.bytesFrom_programInfo, exists_names_descriptorsIn_iff, sec.streamsOf_bytes]
    simp only [List.mem_map, exists_exists_and_eq_and, exists_names_descriptorsIn_iff]
  rw [hnames, descriptors]
  simp only [List.mem_append, List.mem_flatMap]
  constructor
  · rintro (⟨descriptor, hmem, h⟩ | ⟨stream, hstream, descriptor, hmem, h⟩)
    · exact ⟨descriptor, Or.inl hmem, h⟩
    · exact ⟨descriptor, Or.inr ⟨stream, hstream, hmem⟩, h⟩
  · rintro ⟨descriptor, hmem | ⟨stream, hstream, hmem⟩, h⟩
    · exact Or.inl ⟨descriptor, hmem, h⟩
    · exact Or.inr ⟨stream, hstream, descriptor, hmem, h⟩

/-- What is known of a service is what this section says of it. -/
structure Decoded (caidFilter : Finset ℕ) (info : PmtInfo) : Prop where
  version : info.version = some sec.version
  mem_esPids_iff : ∀ pid, pid ∈ info.esPids ↔ Usable pid ∧ ∃ stream ∈ sec.streams, stream.pid = pid
  mem_ecmPids_iff : ∀ pid, pid ∈ info.ecmPids ↔
    Usable pid ∧ ∃ descriptor ∈ sec.descriptors, descriptor.NamesCaPid caidFilter pid

theorem exists_parsePMT {pid : ℕ} {t : Tables} (hnew : (t.infoOf pid).version ≠ some sec.version) :
    ∃ t', Tables.parsePMT pid sec.bytes t = some t' ∧
      ∃ info, t'.pmt pid = some info ∧ sec.Decoded t.caidFilter info := by
  have hlength : 12 ≤ sec.bytes.length := by
    rw [sec.length_bytes]
    exact Nat.le_add_left 12 _
  have hfits := sec.length_le_bytes
  obtain ⟨t', ht'⟩ := Tables.exists_parsePMT hlength t pid
  obtain ⟨⟨ecmPids, esPids⟩, hcontents⟩ := Tables.exists_pmtContents t.caidFilter hfits
  have hstored : t.pmtStored pid sec.bytes = some (sec.version, ecmPids, esPids) := by
    rw [Tables.pmtStored_of_reads sec.byteAt_flags sec.byteAt_infoLengthHigh
      sec.byteAt_infoLengthLow hnew hfits, hcontents]
    rfl
  refine ⟨t', ht', ⟨some sec.version, ecmPids, esPids⟩, ?_, rfl, fun es ↦ ?_, fun ca ↦ ?_⟩
  · rcases Tables.parsePMT_cases ht' with ⟨hnone, -⟩ | ⟨_, _, _, hsome, rfl⟩
    · rw [hstored] at hnone
      cases hnone
    · obtain ⟨rfl, rfl, rfl⟩ : sec.version = _ ∧ ecmPids = _ ∧ esPids = _ := by
        simpa using hstored.symm.trans hsome
      exact Function.update_self pid _ _
  · rw [(Tables.mem_pmtStored_iff hstored).2, sec.listsEsPid_iff]
  · rw [(Tables.mem_pmtStored_iff hstored).1, sec.namesEcmPid_iff]

end PmtSection

/-- For every PMT section and from all tables that know another version of it, `parsePMT` stores
exactly the usable pids of its elementary streams and of its CA descriptors.  It is what
`handleSection` calls when the section applies. -/
theorem parsePMT_exact (sec : PmtSection) {pid : ℕ} (hpat : pid ≠ psiPidPat)
    (hcat : pid ≠ psiPidCat) (t : Tables) (hnew : (t.infoOf pid).version ≠ some sec.version) :
    (∃ t', Tables.parsePMT pid sec.bytes t = some t' ∧
        ∃ info, t'.pmt pid = some info ∧ sec.Decoded t.caidFilter info) ∧
      (sec.Current → ∃ t', Tables.handleSection pid sec.bytes t = some t' ∧
        ∃ info, t'.pmt pid = some info ∧ sec.Decoded t.caidFilter info) := by
  refine ⟨sec.exists_parsePMT hnew, fun hcurrent ↦ ?_⟩
  have htable : IsTable sec.bytes 0x02 := by
    simpa [sec.tableId_eq] using sec.isTable hcurrent
  have hdispatch : Tables.dispatch pid sec.bytes t.countSection =
      Tables.parsePMT pid sec.bytes t.countSection := by
    simp only [Tables.dispatch, htable.tableId_eq, hpat, hcat, Option.bind_eq_bind,
      Option.bind_some, if_false, if_true]
  rw [Tables.handleSection_of_isTable htable, hdispatch]
  exact sec.exists_parsePMT (t := t.countSection) hnew

/-- A CA descriptor with CA pid 500. -/
def scramblingDescriptor : Descriptor := ⟨9, 4, [24, 51, 225, 244], rfl⟩

/-- A scrambled service with ECM pid 500 and elementary stream 101. -/
def scrambledPmt : PmtSection where
  header := ⟨2, 176, 24, 0, 1, 193, 0, 0⟩
  body := [225, 1, 240, 6, 9, 4, 24, 51, 225, 244, 2, 224, 101, 240, 0]
  crc0 := 223
  crc1 := 60
  crc2 := 220
  crc3 := 216
  syntax_bit := by decide
  length_eq := by decide
  length_le := by decide
  crc_eq := by decide +kernel
  pcrPidHigh := 225
  pcrPidLow := 1
  infoLengthHigh := 240
  infoLengthLow := 6
  programInfo := [scramblingDescriptor]
  streams := [⟨2, 224, 101, 240, 0, [], rfl⟩]
  tableId_eq := rfl
  infoLength_eq := rfl
  body_eq := rfl

theorem parsePMT_exact_scrambledPmt :
    ∃ t', Tables.parsePMT 100 scrambledPmt.bytes (construct true false ∅).tables = some t' ∧
      ∃ info, t'.pmt 100 = some info ∧ 500 ∈ info.ecmPids ∧ 101 ∈ info.esPids := by
  have hnew : ((construct true false ∅).tables.infoOf 100).version ≠ some scrambledPmt.version := by
    rw [construct, reset, recompute_tables]
    decide
  obtain ⟨⟨t', ht', info, hinfo, hdecoded⟩, -⟩ :=
    @parsePMT_exact scrambledPmt 100 (by decide) (by decide) _ hnew
  have hecm : 500 ∈ info.ecmPids := (hdecoded.mem_ecmPids_iff 500).mpr
    ⟨by unfold Usable; decide, _, List.mem_cons_self, rfl, 24, 51, 225, 244, [], rfl,
      by simp [construct, reset, clearState], rfl⟩
  have hes : 101 ∈ info.esPids := (hdecoded.mem_esPids_iff 101).mpr
    ⟨by unfold Usable; decide, _, List.mem_cons_self, rfl⟩
  exact ⟨t', ht', info, hinfo, hecm, hes⟩

end SatipClient.PSI
