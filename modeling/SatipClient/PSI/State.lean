import Mathlib.Data.Finset.Lattice.Fold
import Mathlib.Data.Finset.Sort
import SatipClient.Foundation.Checked

/-!
# State of the PSI parser

The fields of `satipPSI`.  They are kept in two layers, as the code uses them: the section
parsers read and write only the `Tables`, while the packet loop owns the assemblers and the
watched set, and `recompute` connects the two.

Versions are `-1` in the source until a table was seen; here that is `none`.  Section maps,
the PMT cache and the assemblers are keyed by a section number or a pid, a missing key being
`none`.  The record also carries a ghost `trace` of the calls made to `handleSection`, each
with the tables it started from, and of those made to `satipConfig::setCaPids`.
-/

namespace SatipClient.PSI

/-- `TS_PACKET_SIZE` -/
abbrev tsPacketSize : ℕ := 188

/-- `PSI_MAX_SECTION_LEN` -/
abbrev psiMaxSectionLen : ℕ := 4096

/-- `PSI_MAX_DERIVED_PIDS` -/
abbrev psiMaxDerivedPids : ℕ := 32

/-- `PSI_PID_PAT` -/
abbrev psiPidPat : ℕ := 0x0000

/-- `PSI_PID_CAT` -/
abbrev psiPidCat : ℕ := 0x0001

/-- `PSI_PID_NULL` -/
abbrev psiPidNull : ℕ := 0x1fff

/-- What is known about the service behind one PMT pid. -/
structure PmtInfo where
  version : Option ℕ := none
  ecmPids : Finset ℕ := ∅
  esPids : Finset ℕ := ∅
  deriving DecidableEq

/-- A section being collected.  `data` holds the bytes below `len`, so `len` is its length. -/
structure SectionAssembler where
  data : List UInt8 := []
  expected : ℕ := 0
  deriving DecidableEq

/-- The part of the parser state that `handleSection` and the functions under it use. -/
structure Tables where
  emmEnabled : Bool
  caidFilter : Finset ℕ
  joinedPids : Finset ℕ := ∅
  patVersion : Option ℕ := none
  catVersion : Option ℕ := none
  /-- section_number -> pmt pids -/
  patSections : ℕ → Option (Finset ℕ) := fun _ ↦ none
  /-- section_number -> emm pids -/
  catSections : ℕ → Option (Finset ℕ) := fun _ ↦ none
  patPmtPids : Finset ℕ := ∅
  emmPids : Finset ℕ := ∅
  /-- pmt pid -> ecm pids -/
  pmt : ℕ → Option PmtInfo := fun _ ↦ none
  dirty : Bool := false
  sections : ℕ := 0
  crcErrors : ℕ := 0

/-- A recorded call. -/
inductive Event where
  | handleSection (before : Tables) (pid : ℕ) (sec : List UInt8)
  | setCaPids (pids : Finset ℕ)

/-- The whole parser. -/
structure SatipPSI where
  /-- `m_cfg` is not null -/
  hasCfg : Bool := true
  tables : Tables
  watchedPids : Finset ℕ := ∅
  derivedPids : Finset ℕ := ∅
  assembler : ℕ → Option SectionAssembler := fun _ ↦ none
  tsPackets : ℕ := 0
  trace : List Event := []

/-- The sections handed to `handleSection` for one pid, in order. -/
def handedOn (pid : ℕ) (trace : List Event) : List (List UInt8) :=
  trace.filterMap fun
    | .handleSection _ pid' sec => if pid' = pid then some sec else none
    | .setCaPids _ => none

/-- The sections handed to `handleSection`, with their pids, in order. -/
def handed (trace : List Event) : List (ℕ × List UInt8) :=
  trace.filterMap fun
    | .handleSection _ pid sec => some (pid, sec)
    | .setCaPids _ => none

/-- The sets reported to `satipConfig`, in order. -/
def reports (trace : List Event) : List (Finset ℕ) :=
  trace.filterMap fun
    | .handleSection .. => none
    | .setCaPids pids => some pids

@[simp]
theorem handed_append (front back : List Event) :
    handed (front ++ back) = handed front ++ handed back :=
  List.filterMap_append

theorem reports_append (front back : List Event) :
    reports (front ++ back) = reports front ++ reports back :=
  List.filterMap_append

/-- `eraseUnlisted`: drop every key that is not in `keep`. -/
def eraseUnlisted {α : Type*} (container : ℕ → Option α) (keep : Finset ℕ) : ℕ → Option α :=
  fun key ↦ if key ∈ keep then container key else none

/-- An entry of an updated container is the new one or one from before. -/
theorem update_eq_some {α : Type*} {container : ℕ → Option α} {key place : ℕ} {value found : α}
    (h : Function.update container key (some value) place = some found) :
    place = key ∧ found = value ∨ place ≠ key ∧ container place = some found := by
  by_cases hplace : place = key
  · subst hplace
    rw [Function.update_self] at h
    exact Or.inl ⟨rfl, (Option.some.inj h).symm⟩
  · rw [Function.update_of_ne hplace] at h
    exact Or.inr ⟨hplace, h⟩

theorem eraseUnlisted_of_mem {α : Type*} (container : ℕ → Option α) {keep : Finset ℕ} {key : ℕ}
    (h : key ∈ keep) : eraseUnlisted container keep key = container key := if_pos h

theorem eraseUnlisted_eq_some_iff {α : Type*} (container : ℕ → Option α) (keep : Finset ℕ)
    (key : ℕ) (value : α) :
    eraseUnlisted container keep key = some value ↔ key ∈ keep ∧ container key = some value := by
  unfold eraseUnlisted
  split <;> simp [*]

end SatipClient.PSI
