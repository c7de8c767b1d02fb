import SatipClient.Foundation.Runs
import SatipClient.PSI.Tables

/-!
# The PSI parser

The section assembler, the packet loop of `processTS`, `recompute` and the public operations
of `satipPSI`.  The packet loop hands each 188-byte packet to `processPacket`, which can read
nothing but that packet; a write behind the end of an assembler's `data` is a fault, and so
is a `memcpy` with a count that is not positive.

Lengths and offsets are integers without a bound: the callers pass at most 65 519 bytes, far
from the range in which the `int` offsets of `processTS` would wrap.
-/

namespace SatipClient.PSI

open Checked

/-- Append bytes to the `data` of an assembler. -/
def store (data bytes : List UInt8) : Option (List UInt8) :=
  if data.length + bytes.length ≤ psiMaxSectionLen then some (data ++ bytes) else none

/-- `handleSection`, recorded in the trace. -/
def handleSection (pid : ℕ) (sec : List UInt8) (s : SatipPSI) : Option SatipPSI := do
  let tables ← s.tables.handleSection pid sec
  some { s with tables := tables, trace := s.trace ++ [.handleSection s.tables pid sec] }

/-- The loop of `feed` over the bytes not yet consumed; `sa` is `m_assembler[pid]`, which
`handleSection` does not touch.  Without a pointer field we cannot find the start of a section,
and `0xff` in its place is stuffing. -/
def feedFrom (pid : ℕ) (allowStart : Bool) (rest : List UInt8) (sa : SectionAssembler)
    (s : SatipPSI) : Option (SectionAssembler × SatipPSI) :=
  match rest with
  | [] => some (sa, s)
  | byte :: tail =>
    if sa.expected = 0 then
      if sa.data = [] ∧ (allowStart = false ∨ byte = 0xff) then some (sa, s)
      else do
        let data ← store sa.data [byte]
        if data.length < 3 then feedFrom pid allowStart tail { sa with data := data } s
        else do
          let lengthHigh ← byteAt data 1
          let lengthLow ← byteAt data 2
          let sectionLength := lengthOfBytes lengthHigh lengthLow
          if sectionLength < 9 ∨ psiMaxSectionLen < sectionLength + 3 then
            some ({ sa with data := [] }, s)
          else feedFrom pid allowStart tail { data := data, expected := sectionLength + 3 } s
    else if sa.expected ≤ sa.data.length then none
    else do
      let count := min (byte :: tail).length (sa.expected - sa.data.length)
      let data ← store sa.data ((byte :: tail).take count)
      if data.length = sa.expected then do
        let s ← handleSection pid data s
        feedFrom pid allowStart ((byte :: tail).drop count) {} s
      else feedFrom pid allowStart ((byte :: tail).drop count) { sa with data := data } s
termination_by rest.length
decreasing_by all_goals (simp only [List.length_drop, List.length_cons]; omega)

/-- `feed` -/
def feed (pid : ℕ) (buf : List UInt8) (allowStart : Bool) (s : SatipPSI) : Option SatipPSI := do
  let (sa, s) ← feedFrom pid allowStart buf ((s.assembler pid).getD {}) s
  some { s with assembler := Function.update s.assembler pid (some sa) }

/-- A service is active when the kernel joined one of its elementary streams. -/
def Tables.isActive (t : Tables) (pmtPid : ℕ) : Bool :=
  match t.pmt pmtPid with
  | none => false
  | some info => decide (∃ es ∈ info.esPids, es ∈ t.joinedPids)

/-- What an active service adds to the derived set. -/
def Tables.servicePids (t : Tables) (pmtPid : ℕ) : Finset ℕ :=
  insert pmtPid ((t.pmt pmtPid).elim ∅ PmtInfo.ecmPids)

/-- The `derived` set of `recompute` before it is truncated. -/
def Tables.wantedPids (t : Tables) : Finset ℕ :=
  insert psiPidPat (if t.emmEnabled then insert psiPidCat t.emmPids else ∅) ∪
    (t.patPmtPids.filter fun pmtPid ↦ t.isActive pmtPid).biUnion t.servicePids

/-- The `watched` set of `recompute`. -/
def Tables.watchSet (t : Tables) : Finset ℕ :=
  insert psiPidPat (if t.emmEnabled then {psiPidCat} else ∅) ∪ t.patPmtPids

/-- Keep the smallest `PSI_MAX_DERIVED_PIDS` pids. -/
def truncatePids (derived : Finset ℕ) : Finset ℕ :=
  if psiMaxDerivedPids < derived.card then
    ((derived.sort (· ≤ ·)).take psiMaxDerivedPids).toFinset
  else derived

/-- The set `recompute` arrives at, as a function of the tables alone. -/
def Tables.caPids (t : Tables) : Finset ℕ := truncatePids t.wantedPids

/-- `recompute` -/
def recompute (s : SatipPSI) : SatipPSI :=
  let derived := s.tables.caPids
  let watched := s.tables.watchSet
  let s := { s with assembler := eraseUnlisted s.assembler watched, watchedPids := watched }
  if derived = s.derivedPids then s
  else
    { s with
      derivedPids := derived
      trace := if s.hasCfg then s.trace ++ [.setCaPids derived] else s.trace }

/-- The end of the loop body of `processTS`: a PAT here can make a pmt pid watchable that
this buffer still carries. -/
def settle (s : SatipPSI) : SatipPSI :=
  if s.tables.dirty then recompute { s with tables := { s.tables with dirty := false } } else s

/-- `pos` behind the header and, if there is one, the adaptation field. -/
def payloadPos (p : List UInt8) (afc : ℕ) : Option ℕ :=
  if afc = 3 then (byteAt p 4).map (4 + 1 + ·) else some 4

/-- The loop body of `processTS` after the sync byte was checked.  It does nothing for a pid that
is not watched, for a scrambled packet, which is never a PSI section, and without a payload. -/
def processPacket (p : List UInt8) (s : SatipPSI) : Option SatipPSI := do
  let s := { s with tsPackets := s.tsPackets + 1 }
  let b1 ← byteAt p 1
  let b2 ← byteAt p 2
  let pid := pidOfBytes b1 b2
  if pid ∉ s.watchedPids then some s
  else do
    let b3 ← byteAt p 3
    let afc := (b3 >>> 4) &&& 0x03
    if b3 &&& 0xc0 ≠ 0 ∨ afc = 0 ∨ afc = 2 then some s
    else do
      let pos ← payloadPos p afc
      if tsPacketSize ≤ pos then some s
      else if b1 &&& 0x40 ≠ 0 then do
        let ptr ← byteAt p pos
        if tsPacketSize < pos + 1 + ptr then some s
        else do
          let tail ← slice p (pos + 1) ptr
          let s ← if 0 < ptr then feed pid tail false s else some s
          let start ← slice p (pos + 1 + ptr) (tsPacketSize - (pos + 1 + ptr))
          let s ← feed pid start true s
          some (settle s)
      else do
        let payload ← slice p pos (tsPacketSize - pos)
        let s ← feed pid payload false s
        some (settle s)

/-- `processTS`; the argument is what is left of the buffer.  A packet that is not aligned makes
the rest of the buffer useless. -/
def processTS (data : List UInt8) (s : SatipPSI) : Option SatipPSI :=
  if tsPacketSize ≤ data.length then do
    let sync ← byteAt (data.take tsPacketSize) 0
    if sync ≠ 0x47 then some s
    else do
      let s ← processPacket (data.take tsPacketSize) s
      processTS (data.drop tsPacketSize) s
  else some s
termination_by data.length
decreasing_by simp only [tsPacketSize] at *; simp only [List.length_drop]; omega

/-- `clearState`, which keeps the statistics and the derived set. -/
def clearState (s : SatipPSI) : SatipPSI :=
  { s with
    tables :=
      { emmEnabled := s.tables.emmEnabled
        caidFilter := s.tables.caidFilter
        joinedPids := s.tables.joinedPids
        sections := s.tables.sections
        crcErrors := s.tables.crcErrors }
    watchedPids := ∅
    assembler := fun _ ↦ none }

/-- `reset` -/
def reset (s : SatipPSI) : SatipPSI :=
  let s := clearState s
  recompute { s with tables := { s.tables with joinedPids := ∅ } }

/-- `setJoinedPids` -/
def setJoinedPids (pids : Finset ℕ) (s : SatipPSI) : SatipPSI :=
  if pids ≠ s.tables.joinedPids then
    recompute { s with tables := { s.tables with joinedPids := pids } }
  else s

/-- The constructor `satipPSI(cfg, emm_enabled, caid_filter, ..)`. -/
def construct (hasCfg emmEnabled : Bool) (caidFilter : Finset ℕ) : SatipPSI :=
  reset { hasCfg := hasCfg, tables := { emmEnabled := emmEnabled, caidFilter := caidFilter } }

/-- The public operations. -/
inductive Op where
  | reset
  | setJoinedPids (pids : Finset ℕ)
  | processTS (data : List UInt8)

/-- Perform one public operation. -/
def step (s : SatipPSI) : Op → Option SatipPSI
  | .reset => some (reset s)
  | .setJoinedPids pids => some (setJoinedPids pids s)
  | .processTS data => processTS data s

/-- The states reached between public operations of a parser built with any arguments. -/
def Reachable (s : SatipPSI) : Prop :=
  ∃ hasCfg emmEnabled caidFilter, Runs.Reachable step (construct hasCfg emmEnabled caidFilter) s

/-! ## Fields after `recompute` -/

@[simp]
theorem recompute_tables (s : SatipPSI) : (recompute s).tables = s.tables := by
  simp only [recompute]
  split <;> rfl

@[simp]
theorem recompute_watchedPids (s : SatipPSI) :
    (recompute s).watchedPids = s.tables.watchSet := by
  simp only [recompute]
  split <;> rfl

@[simp]
theorem recompute_derivedPids (s : SatipPSI) : (recompute s).derivedPids = s.tables.caPids := by
  simp only [recompute]
  split
  · symm
    assumption
  · rfl

@[simp]
theorem recompute_assembler (s : SatipPSI) :
    (recompute s).assembler = eraseUnlisted s.assembler s.tables.watchSet := by
  simp only [recompute]
  split <;> rfl

@[simp]
theorem recompute_hasCfg (s : SatipPSI) : (recompute s).hasCfg = s.hasCfg := by
  simp only [recompute]
  split <;> rfl

theorem recompute_trace (s : SatipPSI) :
    (recompute s).trace =
      s.trace ++ if s.tables.caPids ≠ s.derivedPids ∧ s.hasCfg then [.setCaPids s.tables.caPids]
        else [] := by
  simp only [recompute]
  split_ifs <;> simp_all

@[simp]
theorem handed_recompute (s : SatipPSI) : handed (recompute s).trace = handed s.trace := by
  rw [recompute_trace, handed_append]
  split <;> simp [handed]

@[simp]
theorem handed_settle (s : SatipPSI) : handed (settle s).trace = handed s.trace := by
  unfold settle
  split <;> simp

end SatipClient.PSI
