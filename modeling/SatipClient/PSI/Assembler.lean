import Mathlib.Tactic.Ring
import SatipClient.PSI.Parser

/-!
# The section assembler as a byte transducer

What the section assembler is for: it cuts a stream of bytes into sections.  The abstract
assembler `assemble` consumes one byte at a time and keeps nothing but the bytes of the
section in progress; the size of that section is read off those bytes.  The loop of `feed`,
which copies whole chunks and keeps `expected` beside the bytes, refines it
(`feedFrom_ofPending`).
-/

namespace SatipClient.PSI

open Checked

/-- The whole size of the section that starts with these bytes, once its header is there. -/
def sectionSize (data : List UInt8) : Option ℕ := do
  let lengthHigh ← byteAt data 1
  let lengthLow ← byteAt data 2
  some (lengthOfBytes lengthHigh lengthLow + 3)

/-- A size `feed` accepts: at least the table header and the crc, at most the buffer. -/
def SizeOk (size : ℕ) : Prop := 12 ≤ size ∧ size ≤ psiMaxSectionLen

instance (size : ℕ) : Decidable (SizeOk size) := by
  unfold SizeOk; infer_instance

/-- The bytes of a section in progress. -/
def Pending (data : List UInt8) : Prop :=
  data.length < 3 ∨ ∃ size, sectionSize data = some size ∧ SizeOk size ∧ data.length < size

/-- A whole section, as the assembler sees one. -/
def IsSection (sec : List UInt8) : Prop :=
  sectionSize sec = some sec.length ∧ SizeOk sec.length

/-- The header of the section has just been completed and its size is not acceptable. -/
def Bogus (data : List UInt8) : Prop :=
  ∃ size, sectionSize data = some size ∧ ¬ SizeOk size

instance (data : List UInt8) : Decidable (IsSection data) := by
  unfold IsSection; infer_instance

instance (data : List UInt8) : Decidable (Bogus data) :=
  match h : sectionSize data with
  | none => isFalse (by rintro ⟨size, hsize, _⟩; rw [h] at hsize; cases hsize)
  | some size => decidable_of_iff (¬ SizeOk size) (by simp [Bogus, h])

/-- Consume bytes into the section in progress `data`; the result is the section then in
progress and the sections completed on the way. -/
def assemble (allowStart : Bool) : List UInt8 → List UInt8 → List UInt8 × List (List UInt8)
  | [], data => (data, [])
  | byte :: rest, data =>
    if data = [] ∧ (allowStart = false ∨ byte = 0xff) then (data, [])
    else if Bogus (data ++ [byte]) then ([], [])
    else if IsSection (data ++ [byte]) then
      let next := assemble allowStart rest []
      (next.1, (data ++ [byte]) :: next.2)
    else assemble allowStart rest (data ++ [byte])

/-- The assembler of the code that has collected exactly these bytes. -/
def ofPending (data : List UInt8) : SectionAssembler where
  data := data
  expected := (sectionSize data).getD 0

/-! ## Section sizes -/

theorem sectionSize_append {data : List UInt8} (h : 3 ≤ data.length) (back : List UInt8) :
    sectionSize (data ++ back) = sectionSize data := by
  unfold sectionSize
  rw [byteAt_append_left (by omega), byteAt_append_left (by omega)]

theorem sectionSize_eq_none {data : List UInt8} (h : data.length < 3) :
    sectionSize data = none := by
  have hread : byteAt data 2 = none := by
    simp only [byteAt, Option.map_eq_none_iff, List.getElem?_eq_none_iff]
    omega
  unfold sectionSize
  rw [hread]
  cases byteAt data 1 <;> rfl

theorem exists_sectionSize {data : List UInt8} (h : 3 ≤ data.length) :
    ∃ size, sectionSize data = some size := by
  obtain ⟨high, _, hhigh⟩ := exists_byteAt (show 1 < data.length by omega)
  obtain ⟨low, _, hlow⟩ := exists_byteAt (show 2 < data.length by omega)
  exact ⟨_, by unfold sectionSize; rw [hhigh, hlow]; rfl⟩

theorem length_of_sectionSize {data : List UInt8} {size : ℕ} (h : sectionSize data = some size) :
    3 ≤ data.length := by
  by_contra hlt
  rw [sectionSize_eq_none (by omega)] at h
  cases h

theorem pending_nil : Pending [] := Or.inl (by simp)

/-- A section in progress stays one, is completed, or turns out to be bogus. -/
theorem pending_concat {data : List UInt8} (h : Pending data) (byte : UInt8)
    (hbogus : ¬ Bogus (data ++ [byte])) (hsection : ¬ IsSection (data ++ [byte])) :
    Pending (data ++ [byte]) := by
  by_cases hshort : (data ++ [byte]).length < 3
  · exact Or.inl hshort
  obtain ⟨size, hsize⟩ := exists_sectionSize (Nat.le_of_not_lt hshort)
  have hok : SizeOk size := by
    by_contra hnot
    exact hbogus ⟨size, hsize, hnot⟩
  refine Or.inr ⟨size, hsize, hok, ?_⟩
  have hne : size ≠ (data ++ [byte]).length := by
    rintro rfl
    exact hsection ⟨hsize, hok⟩
  simp only [List.length_append, List.length_cons, List.length_nil] at hshort hne ⊢
  rcases h with hlt | ⟨size', hsize', _, hlt⟩
  · have := hok.1
    omega
  · rw [sectionSize_append (length_of_sectionSize hsize'), hsize'] at hsize
    cases hsize
    omega

theorem pending_assemble (allowStart : Bool) (bytes : List UInt8) {data : List UInt8}
    (h : Pending data) : Pending (assemble allowStart bytes data).1 := by
  induction bytes generalizing data with
  | nil => exact h
  | cons byte rest ih =>
    unfold assemble
    split_ifs with hskip hbogus hsection
    · exact h
    · exact pending_nil
    · exact ih pending_nil
    · exact ih (pending_concat h byte hbogus hsection)

/-- Whatever the bytes, only whole sections are emitted. -/
theorem isSection_of_mem_assemble {allowStart : Bool} {bytes data sec : List UInt8}
    (h : sec ∈ (assemble allowStart bytes data).2) : IsSection sec := by
  induction bytes generalizing data with
  | nil => cases h
  | cons byte rest ih =>
    unfold assemble at h
    split_ifs at h with hskip hbogus hsection
    · cases h
    · cases h
    · rcases List.mem_cons.mp h with rfl | hrest
      · exact hsection
      · exact ih hrest
    · exact ih h

/-! ## Consuming a chunk at once -/

theorem not_bogus_of_append {front back : List UInt8} (h : IsSection (front ++ back)) :
    ¬ Bogus front := by
  intro hbogus
  obtain ⟨size, hsize, hnot⟩ := hbogus
  have hwhole := h.1
  rw [sectionSize_append (length_of_sectionSize hsize), hsize] at hwhole
  cases hwhole
  exact hnot h.2

theorem not_isSection_of_append {front back : List UInt8} (h : IsSection (front ++ back))
    (hback : back ≠ []) : ¬ IsSection front := by
  intro hfront
  have hwhole := h.1
  rw [sectionSize_append (length_of_sectionSize hfront.1), hfront.1] at hwhole
  simp only [List.length_append, Option.some.injEq, Nat.left_eq_add, List.length_eq_zero_iff]
    at hwhole
  exact hback hwhole

variable (allowStart : Bool) {data chunk after : List UInt8}

/-- Bytes inside a section are collected.  The section may be started by them only behind a
pointer field, and not with a stuffing byte. -/
theorem assemble_within (hsec : IsSection (data ++ chunk ++ after)) (hafter : after ≠ [])
    (hstart : data = [] → allowStart = true ∧ (chunk ++ after).head? ≠ some 0xff)
    (rest : List UInt8) :
    assemble allowStart (chunk ++ rest) data = assemble allowStart rest (data ++ chunk) := by
  induction chunk generalizing data with
  | nil => simp
  | cons byte chunk ih =>
    have hshift : data ++ byte :: chunk ++ after = data ++ [byte] ++ chunk ++ after := by simp
    rw [hshift] at hsec
    have hskip : ¬ (data = [] ∧ (allowStart = false ∨ byte = 0xff)) := by
      intro hskip
      obtain ⟨hallow, hhead⟩ := hstart hskip.1
      rcases hskip.2 with hfalse | hstuff
      · rw [hallow] at hfalse
        cases hfalse
      · exact hhead (by simp [hstuff])
    have hbogus : ¬ Bogus (data ++ [byte]) := by
      rw [List.append_assoc (data ++ [byte])] at hsec
      exact not_bogus_of_append hsec
    have hsection : ¬ IsSection (data ++ [byte]) := by
      rw [List.append_assoc (data ++ [byte])] at hsec
      exact not_isSection_of_append hsec (by simp [hafter])
    rw [List.cons_append, assemble, if_neg hskip, if_neg hbogus, if_neg hsection,
      ih hsec (by simp)]
    simp

/-- The bytes that complete a section emit it. -/
theorem assemble_complete (hsec : IsSection (data ++ chunk)) (hchunk : chunk ≠ [])
    (hstart : data = [] → allowStart = true ∧ chunk.head? ≠ some 0xff) (rest : List UInt8) :
    assemble allowStart (chunk ++ rest) data =
      ((assemble allowStart rest []).1, (data ++ chunk) :: (assemble allowStart rest []).2) := by
  obtain ⟨front, last, rfl⟩ : ∃ front last, chunk = front ++ [last] :=
    ⟨_, _, (List.dropLast_append_getLast hchunk).symm⟩
  rw [← List.append_assoc] at hsec
  have hskip : ¬ (data ++ front = [] ∧ (allowStart = false ∨ last = 0xff)) := by
    intro hskip
    obtain ⟨hdata, hfront⟩ := List.append_eq_nil_iff.mp hskip.1
    obtain ⟨hallow, hhead⟩ := hstart hdata
    rcases hskip.2 with hfalse | hstuff
    · rw [hallow] at hfalse
      cases hfalse
    · exact hhead (by simp [hfront, hstuff])
  have hbogus : ¬ Bogus (data ++ front ++ [last]) := by
    have hwhole : IsSection (data ++ front ++ [last] ++ []) := by simpa using hsec
    exact not_bogus_of_append hwhole
  rw [List.append_assoc front, assemble_within allowStart hsec (by simp) hstart,
      List.singleton_append,
    assemble, if_neg hskip, if_neg hbogus, if_pos hsec]
  simp

/-- Bytes that do not reach the size of the section in progress are collected. -/
theorem assemble_short {size : ℕ} (hsize : sectionSize data = some size) (hok : SizeOk size)
    (hlt : data.length + chunk.length < size) (rest : List UInt8) :
    assemble allowStart (chunk ++ rest) data = assemble allowStart rest (data ++ chunk) := by
  have hthree := length_of_sectionSize hsize
  let after : List UInt8 := List.replicate (size - (data.length + chunk.length)) 0
  have hlen : (data ++ chunk ++ after).length = size := by
    simp only [after, List.length_append, List.length_replicate]
    omega
  have hsec : IsSection (data ++ chunk ++ after) := by
    refine ⟨?_, by rwa [hlen]⟩
    rw [hlen, List.append_assoc, sectionSize_append hthree, hsize]
  have hafter : after ≠ [] := by
    simp only [after, ne_eq, List.replicate_eq_nil_iff]
    omega
  apply assemble_within allowStart hsec hafter
  intro hnil
  simp [hnil] at hthree

/-! ## The loop of `feed` refines the abstract assembler -/

theorem ofPending_nil : ofPending [] = {} := rfl

theorem ofPending_of_lt (h : data.length < 3) : ofPending data = { data := data } := by
  simp [ofPending, sectionSize_eq_none h]

theorem ofPending_of_size {size : ℕ} (h : sectionSize data = some size) :
    ofPending data = { data := data, expected := size } := by
  simp [ofPending, h]

/-- Hand the emitted sections over, in order. -/
def handleAll (pid : ℕ) (secs : List (List UInt8)) (s : SatipPSI) : Option SatipPSI :=
  secs.foldlM (fun s sec ↦ handleSection pid sec s) s

@[simp]
theorem handleAll_nil (pid : ℕ) (s : SatipPSI) : handleAll pid [] s = some s := rfl

@[simp]
theorem handleAll_cons (pid : ℕ) (sec : List UInt8) (secs : List (List UInt8)) (s : SatipPSI) :
    handleAll pid (sec :: secs) s = (handleSection pid sec s).bind (handleAll pid secs) := by
  simp only [handleAll, List.foldlM_cons, Option.bind_eq_bind]
  rfl

/-- What each of these sections keeps, all of them keep. -/
theorem handleAll_rule_of_mem {motive : SatipPSI → Prop} {pid : ℕ} {secs : List (List UInt8)}
    {s next : SatipPSI}
    (hsec : ∀ s, ∀ sec ∈ secs, ∀ next, motive s → handleSection pid sec s = some next →
      motive next)
    (hs : motive s) (h : handleAll pid secs s = some next) : motive next := by
  induction secs generalizing s with
  | nil =>
    obtain rfl := Option.some.inj h
    exact hs
  | cons sec secs ih =>
    rw [handleAll_cons, Option.bind_eq_some_iff] at h
    obtain ⟨mid, hmid, hnext⟩ := h
    have hrest : ∀ s, ∀ sec ∈ secs, ∀ next, motive s → handleSection pid sec s = some next →
        motive next := fun s sec hmem ↦ hsec s sec (List.mem_cons_of_mem _ hmem)
    exact ih hrest (hsec s sec List.mem_cons_self mid hs hmid) hnext

/-- What every section keeps, all of them keep. -/
theorem handleAll_rule {motive : SatipPSI → Prop} {pid : ℕ} {secs : List (List UInt8)}
    {s next : SatipPSI}
    (hsec : ∀ s sec next, motive s → handleSection pid sec s = some next → motive next)
    (hs : motive s) (h : handleAll pid secs s = some next) : motive next :=
  handleAll_rule_of_mem (fun s sec _ ↦ hsec s sec) hs h

theorem handleAll_append (pid : ℕ) (front back : List (List UInt8)) (s : SatipPSI) :
    handleAll pid (front ++ back) s = (handleAll pid front s).bind (handleAll pid back) := by
  simp only [handleAll, List.foldlM_append, Option.bind_eq_bind]
  rfl

/-- What `feed` amounts to: the abstract assembler runs over the bytes, and the sections it
emits are handed over. -/
def assembleAndHandle (pid : ℕ) (allowStart : Bool) (rest data : List UInt8) (s : SatipPSI) :
    Option (SectionAssembler × SatipPSI) :=
  (handleAll pid (assemble allowStart rest data).2 s).map fun next ↦
    (ofPending (assemble allowStart rest data).1, next)

variable {pid : ℕ} {byte : UInt8} {tail : List UInt8} {s : SatipPSI}

/-- One round of the loop while the header is collected. -/
theorem feedFrom_header (hshort : data.length < 3)
    (ih : ∀ data', Pending data' → feedFrom pid allowStart tail (ofPending data') s =
      assembleAndHandle pid allowStart tail data' s) :
    feedFrom pid allowStart (byte :: tail) (ofPending data) s =
      assembleAndHandle pid allowStart (byte :: tail) data s := by
  rw [feedFrom, ofPending_of_lt hshort, assembleAndHandle, assemble]
  by_cases hskip : data = [] ∧ (allowStart = false ∨ byte = 0xff)
  · simp [hskip, ofPending_nil]
  have hstore : store data [byte] = some (data ++ [byte]) :=
    if_pos (by simp only [List.length_cons, List.length_nil, psiMaxSectionLen]; omega)
  have hnext : (data ++ [byte]).length = data.length + 1 := by simp
  simp only [hskip, if_true, if_false, hstore, Option.bind_eq_bind, Option.bind_some]
  by_cases htwo : (data ++ [byte]).length < 3
  · have hbogus : ¬ Bogus (data ++ [byte]) := by simp [Bogus, sectionSize_eq_none htwo]
    have hsection : ¬ IsSection (data ++ [byte]) := by
      simp [IsSection, sectionSize_eq_none htwo]
    rw [if_pos htwo, if_neg hbogus, if_neg hsection, ← ofPending_of_lt htwo]
    exact ih _ (Or.inl htwo)
  obtain ⟨high, _, hhigh⟩ := exists_byteAt (show 1 < (data ++ [byte]).length by omega)
  obtain ⟨low, _, hlow⟩ := exists_byteAt (show 2 < (data ++ [byte]).length by omega)
  have hsize : sectionSize (data ++ [byte]) = some (lengthOfBytes high low + 3) := by
    simp [sectionSize, hhigh, hlow]
  rw [if_neg htwo, hhigh, hlow]
  simp only [Option.bind_some]
  by_cases hok : SizeOk (lengthOfBytes high low + 3)
  · have hrange : ¬ (lengthOfBytes high low < 9 ∨
        psiMaxSectionLen < lengthOfBytes high low + 3) := by
      obtain ⟨hmin, hmax⟩ := hok
      omega
    have hbogus : ¬ Bogus (data ++ [byte]) := by simp [Bogus, hsize, hok]
    have hsection : ¬ IsSection (data ++ [byte]) := by
      intro hsection
      have hmin := hsection.2.1
      omega
    rw [if_neg hrange, if_neg hbogus, if_neg hsection, ← ofPending_of_size hsize]
    refine ih _ (Or.inr ⟨_, hsize, hok, ?_⟩)
    have hmin := hok.1
    omega
  · have hrange : lengthOfBytes high low < 9 ∨
        psiMaxSectionLen < lengthOfBytes high low + 3 := by
      unfold SizeOk at hok
      omega
    have hbogus : Bogus (data ++ [byte]) := ⟨_, hsize, hok⟩
    rw [if_pos hrange, if_pos hbogus]
    simp [ofPending_nil]

/-- One round of the loop while the body is collected: it either completes the section or
uses up the buffer. -/
theorem feedFrom_body (hthree : 3 ≤ data.length) (h : Pending data)
    (ih : ∀ rest next, rest.length < (byte :: tail).length →
      feedFrom pid allowStart rest (ofPending []) next =
        assembleAndHandle pid allowStart rest [] next) :
    feedFrom pid allowStart (byte :: tail) (ofPending data) s =
      assembleAndHandle pid allowStart (byte :: tail) data s := by
  obtain ⟨size, hsize, hok, hlt⟩ := h.resolve_left (Nat.not_lt.mpr hthree)
  have hmin := hok.1
  have hmax := hok.2
  rw [feedFrom, ofPending_of_size hsize]
  simp only [show size ≠ 0 by omega, if_false, Nat.not_le.mpr hlt]
  set count := min (byte :: tail).length (size - data.length) with hcount
  have htake : ((byte :: tail).take count).length = count := by
    rw [List.length_take]
    omega
  have hpos : 0 < count := by
    simp only [hcount, List.length_cons]
    omega
  have hstore : store data ((byte :: tail).take count) =
      some (data ++ (byte :: tail).take count) :=
    if_pos (by rw [htake]; omega)
  simp only [hstore, Option.bind_eq_bind, Option.bind_some, List.length_append, htake]
  have hsplit : byte :: tail = (byte :: tail).take count ++ (byte :: tail).drop count :=
    (List.take_append_drop _ _).symm
  have hnext : sectionSize (data ++ (byte :: tail).take count) = some size := by
    rw [sectionSize_append hthree, hsize]
  by_cases hfull : data.length + count = size
  · have hlength : (data ++ (byte :: tail).take count).length = size := by
      rw [List.length_append, htake, hfull]
    have hwhole : IsSection (data ++ (byte :: tail).take count) :=
      ⟨by rw [hnext, hlength], by rwa [hlength]⟩
    have hemit := assemble_complete allowStart hwhole
      (by rw [← List.length_pos_iff, htake]; exact hpos)
      (by intro hnil; simp [hnil] at hthree) ((byte :: tail).drop count)
    rw [← hsplit] at hemit
    rw [if_pos hfull, assembleAndHandle, hemit, handleAll_cons, Option.map_bind]
    congr 1
    funext next
    apply ih
    simp only [List.length_drop, List.length_cons]
    omega
  · have hall : (byte :: tail).drop count = [] := by
      rw [List.drop_eq_nil_iff]
      omega
    rw [hall, List.append_nil] at hsplit
    rw [List.drop_eq_nil_iff] at hall
    have hkeep := assemble_short allowStart hsize hok
      (show data.length + (byte :: tail).length < size by omega) []
    rw [List.append_nil] at hkeep
    rw [if_neg hfull, List.drop_of_length_le hall, ← hsplit, assembleAndHandle, hkeep, feedFrom]
    simp only [assemble, handleAll_nil, Option.map_some]
    rw [ofPending_of_size (by rw [hsplit, hnext])]

/-- The loop of `feed` hands over what the abstract assembler emits and keeps what it keeps. -/
theorem feedFrom_ofPending (pid : ℕ) (rest : List UInt8) (s : SatipPSI) (h : Pending data) :
    feedFrom pid allowStart rest (ofPending data) s =
      assembleAndHandle pid allowStart rest data s := by
  induction hlen : rest.length using Nat.strong_induction_on generalizing rest data s with
  | _ n ih =>
  match rest with
  | [] => simp [feedFrom, assembleAndHandle, assemble]
  | byte :: tail =>
    by_cases hshort : data.length < 3
    · apply feedFrom_header allowStart hshort
      intro data' hdata'
      exact ih tail.length (by simp [← hlen]) tail s hdata' rfl
    · apply feedFrom_body allowStart (Nat.le_of_not_lt hshort) h
      intro rest next hrest
      exact ih rest.length (by omega) rest next pending_nil rfl

end SatipClient.PSI
