import Mathlib.Data.Finset.Union
import SatipClient.PSI.Crc
import SatipClient.PSI.State

/-!
# The section parsers

`handleSection` and the functions under it: `parsePAT`, `parseCAT`, `parsePMT` and
`collectCaDescriptors`.  Every read goes through `Checked.byteAt` on the section, whose
length is the `len` the code passes along, so an index at or past it is a fault of the model.
-/

namespace SatipClient.PSI

open Checked

/-- A 13-bit pid from the two bytes that hold it. -/
def pidOfBytes (high low : ℕ) : ℕ := ((high &&& 0x1f) <<< 8) ||| low

/-- A 12-bit length from the two bytes that hold it. -/
def lengthOfBytes (high low : ℕ) : ℕ := ((high &&& 0x0f) <<< 8) ||| low

namespace Tables

/-- `caidAllowed` -/
def caidAllowed (caidFilter : Finset ℕ) (caid : ℕ) : Bool :=
  if caidFilter = ∅ then true else decide (caid ∈ caidFilter)

/-- The body of one descriptor: `dlen` bytes follow the tag and the length at `pos`. -/
def caDescriptor (caidFilter : Finset ℕ) (p : List UInt8) (pos tag dlen : ℕ) (out : Finset ℕ) :
    Option (Finset ℕ) :=
  if tag = 0x09 ∧ 4 ≤ dlen then do
    let caidHigh ← byteAt p (pos + 2)
    let caidLow ← byteAt p (pos + 3)
    let caid := (caidHigh <<< 8) ||| caidLow
    let pidHigh ← byteAt p (pos + 4)
    let pidLow ← byteAt p (pos + 5)
    let caPid := pidOfBytes pidHigh pidLow
    if 0 < caPid ∧ caPid < psiPidNull ∧ caidAllowed caidFilter caid then
      some (insert caPid out)
    else some out
  else some out

/-- The loop of `collectCaDescriptors` from `pos` on; `p` has exactly the `len` bytes given. -/
def collectCaDescriptorsFrom (caidFilter : Finset ℕ) (p : List UInt8) (pos : ℕ)
    (out : Finset ℕ) : Option (Finset ℕ) :=
  if pos + 2 ≤ p.length then do
    let tag ← byteAt p pos
    let dlen ← byteAt p (pos + 1)
    if p.length < pos + 2 + dlen then some out
    else do
      let out ← caDescriptor caidFilter p pos tag dlen out
      collectCaDescriptorsFrom caidFilter p (pos + 2 + dlen) out
  else some out
termination_by p.length - pos

/-- `collectCaDescriptors` -/
def collectCaDescriptors (caidFilter : Finset ℕ) (p : List UInt8) (out : Finset ℕ) :
    Option (Finset ℕ) :=
  collectCaDescriptorsFrom caidFilter p 0 out

/-- The program loop of `parsePAT` from index `i` on.  Program 0 names the network information
table. -/
def patProgramsFrom (sec : List UInt8) (i : ℕ) (pmtPids : Finset ℕ) : Option (Finset ℕ) :=
  if i + 4 + 4 ≤ sec.length then do
    let programHigh ← byteAt sec i
    let programLow ← byteAt sec (i + 1)
    let pidHigh ← byteAt sec (i + 2)
    let pidLow ← byteAt sec (i + 3)
    let programNumber := (programHigh <<< 8) ||| programLow
    let pmtPid := pidOfBytes pidHigh pidLow
    if programNumber = 0 ∨ pmtPid = 0 ∨ psiPidNull ≤ pmtPid then
      patProgramsFrom sec (i + 4) pmtPids
    else patProgramsFrom sec (i + 4) (insert pmtPid pmtPids)
  else some pmtPids
termination_by sec.length - i

/-- The union of all values of a section map.  Its keys are bytes. -/
def sectionUnion (sections : ℕ → Option (Finset ℕ)) : Finset ℕ :=
  (Finset.range 256).biUnion fun number ↦ (sections number).getD ∅

/-- `parsePAT` -/
def parsePAT (sec : List UInt8) (t : Tables) : Option Tables := do
  let flags ← byteAt sec 5
  let version := (flags >>> 1) &&& 0x1f
  let sectionNumber ← byteAt sec 6
  let t := if t.patVersion ≠ some version then
      { t with patSections := fun _ ↦ none, patVersion := some version }
    else t
  let pmtPids ← patProgramsFrom sec 8 ∅
  let t := { t with patSections := Function.update t.patSections sectionNumber (some pmtPids) }
  let all := sectionUnion t.patSections
  if all ≠ t.patPmtPids then
    some { t with patPmtPids := all, pmt := eraseUnlisted t.pmt all, dirty := true }
  else some t

/-- `parseCAT` -/
def parseCAT (sec : List UInt8) (t : Tables) : Option Tables := do
  let flags ← byteAt sec 5
  let version := (flags >>> 1) &&& 0x1f
  let sectionNumber ← byteAt sec 6
  let t := if t.catVersion ≠ some version then
      { t with catSections := fun _ ↦ none, catVersion := some version }
    else t
  let descriptors ← slice sec 8 (sec.length - 4 - 8)
  let emmPids ← collectCaDescriptors t.caidFilter descriptors ∅
  let t := { t with catSections := Function.update t.catSections sectionNumber (some emmPids) }
  let all := sectionUnion t.catSections
  if all ≠ t.emmPids then some { t with emmPids := all, dirty := true }
  else some t

/-- The elementary stream loop of `parsePMT` from `pos` on, up to `fin`, the start of the crc. -/
def pmtStreamsFrom (caidFilter : Finset ℕ) (sec : List UInt8) (fin pos : ℕ)
    (ecmPids esPids : Finset ℕ) : Option (Finset ℕ × Finset ℕ) :=
  if pos + 5 ≤ fin then do
    let pidHigh ← byteAt sec (pos + 1)
    let pidLow ← byteAt sec (pos + 2)
    let esPid := pidOfBytes pidHigh pidLow
    let esPids := if 0 < esPid ∧ esPid < psiPidNull then insert esPid esPids else esPids
    let lengthHigh ← byteAt sec (pos + 3)
    let lengthLow ← byteAt sec (pos + 4)
    let esInfoLength := lengthOfBytes lengthHigh lengthLow
    if fin < pos + 5 + esInfoLength then some (ecmPids, esPids)
    else do
      let descriptors ← slice sec (pos + 5) esInfoLength
      let ecmPids ← collectCaDescriptors caidFilter descriptors ecmPids
      pmtStreamsFrom caidFilter sec fin (pos + 5 + esInfoLength) ecmPids esPids
  else some (ecmPids, esPids)
termination_by fin - pos

/-- What `parsePMT` reads after its length checks: the ECM pids and the elementary stream pids. -/
def pmtContents (caidFilter : Finset ℕ) (sec : List UInt8) (programInfoLength : ℕ) :
    Option (Finset ℕ × Finset ℕ) := do
  let descriptors ← slice sec 12 programInfoLength
  let ecmPids ← collectCaDescriptors caidFilter descriptors ∅
  pmtStreamsFrom caidFilter sec (sec.length - 4) (12 + programInfoLength) ecmPids ∅

/-- `parsePMT`.  `m_pmt[pid]` creates the entry, also when the section is then rejected. -/
def parsePMT (pid : ℕ) (sec : List UInt8) (t : Tables) : Option Tables := do
  let _programHigh ← byteAt sec 3
  let _programLow ← byteAt sec 4
  let flags ← byteAt sec 5
  let version := (flags >>> 1) &&& 0x1f
  let info := (t.pmt pid).getD {}
  let t := { t with pmt := Function.update t.pmt pid (some info) }
  if info.version = some version then some t
  else if sec.length < 12 + 4 then some t
  else do
    let lengthHigh ← byteAt sec 10
    let lengthLow ← byteAt sec 11
    let programInfoLength := lengthOfBytes lengthHigh lengthLow
    if sec.length < 12 + programInfoLength + 4 then some t
    else do
      let (ecmPids, esPids) ← pmtContents t.caidFilter sec programInfoLength
      let info := { info with version := some version, esPids := esPids }
      if info.ecmPids ≠ ecmPids then
        let info := { info with ecmPids := ecmPids }
        some { t with pmt := Function.update t.pmt pid (some info), dirty := true }
      else some { t with pmt := Function.update t.pmt pid (some info) }

/-- The dispatch at the end of `handleSection`. -/
def dispatch (pid : ℕ) (sec : List UInt8) (t : Tables) : Option Tables := do
  let tableId ← byteAt sec 0
  if pid = psiPidPat then
    if tableId = 0x00 then parsePAT sec t else some t
  else if pid = psiPidCat then
    if tableId = 0x01 then parseCAT sec t else some t
  else if tableId = 0x02 then parsePMT pid sec t
  else some t

/-- `handleSection`.  A section without `current_next_indicator` is not applicable yet. -/
def handleSection (pid : ℕ) (sec : List UInt8) (t : Tables) : Option Tables := do
  let syntaxByte ← byteAt sec 1
  if syntaxByte &&& 0x80 = 0 then some t
  else if crc32Calc sec ≠ 0 then some { t with crcErrors := t.crcErrors + 1 }
  else do
    let t := { t with sections := t.sections + 1 }
    let flags ← byteAt sec 5
    if flags &&& 0x01 = 0 then some t
    else dispatch pid sec t

end Tables

end SatipClient.PSI
