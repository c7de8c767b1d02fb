import Mathlib.Logic.Function.Iterate
import SatipClient.RTP.State

/-!
# The reads of RTCP parsing

A datagram is handed to `rtcpData` as the first bytes of a larger buffer, `rx_data` or the receive
buffer of the RTSP client.  The loop always ends, but it stays in the datagram only if the packets
there are well framed (`rtcpData_in_bounds_iff`): neither their headers nor the lengths in them are
compared with the number of bytes that were received.
-/

namespace SatipClient.RTP

open Memory (Block load offset)

/-- The packet type in the header of a packet. -/
def packetType (bytes : List UInt8) : ℕ := (bytes.getD 1 0).toNat

/-- The size of a packet, of which the header says how many words follow it. -/
def packetSize (bytes : List UInt8) : ℕ :=
  4 * (256 * (bytes.getD 2 0).toNat + (bytes.getD 3 0).toNat + 1)

/-- The length of the string in an application packet. -/
def stringSize (bytes : List UInt8) : ℕ :=
  256 * (bytes.getD 14 0).toNat + (bytes.getD 15 0).toNat

/-- An application packet with room for a name has its string in the datagram. -/
def StringInside (bytes : List UInt8) : Prop :=
  packetType bytes = 204 → 8 < packetSize bytes → 16 + stringSize bytes ≤ bytes.length

/-- The datagram is a sequence of packets, of which the last may be cut off behind its header. -/
inductive WellFramed : List UInt8 → Prop where
  | nil : WellFramed []
  | last (bytes : List UInt8) (header : 4 ≤ bytes.length) (cut : bytes.length ≤ packetSize bytes)
      (string : StringInside bytes) : WellFramed bytes
  | cons (bytes : List UInt8) (whole : packetSize bytes ≤ bytes.length)
      (string : StringInside bytes) (rest : WellFramed (bytes.drop (packetSize bytes))) :
      WellFramed bytes

/-- The read stays within the first `size` bytes. -/
def Read.Within (size : ℕ) (read : Read) : Prop := read.start + read.size ≤ size

variable {buffer : Block} {size : ℕ}

theorem wellFramed_iff {bytes : List UInt8} (h : bytes ≠ []) :
    WellFramed bytes ↔ 4 ≤ bytes.length ∧ StringInside bytes ∧
      WellFramed (bytes.drop (packetSize bytes)) := by
  have hsize : 4 ≤ packetSize bytes := by
    unfold packetSize
    omega
  constructor
  · intro hframed
    cases hframed with
    | nil => exact absurd rfl h
    | last _ header cut string =>
      rw [List.drop_of_length_le cut]
      exact ⟨header, string, .nil⟩
    | cons _ whole string rest => exact ⟨hsize.trans whole, string, rest⟩
  · rintro ⟨header, string, rest⟩
    by_cases hwhole : packetSize bytes ≤ bytes.length
    · exact .cons bytes hwhole string rest
    · exact .last bytes header (Nat.le_of_not_le hwhole) string

/-! ## Words -/

/-- The bytes of a word are disjoint parts of it. -/
theorem wordAt_eq (buffer : Block) (start : ℕ) :
    wordAt buffer start = (buffer start).toNat * 2 ^ 24 + (buffer (start + 1)).toNat * 2 ^ 16 +
      (buffer (start + 2)).toNat * 2 ^ 8 + (buffer (start + 3)).toNat := by
  have h1 := (buffer (start + 1)).toNat_lt
  have h2 := (buffer (start + 2)).toNat_lt
  have h3 := (buffer (start + 3)).toNat_lt
  have hlow : (buffer (start + 2)).toNat <<< 8 ||| (buffer (start + 3)).toNat =
      (buffer (start + 2)).toNat * 2 ^ 8 + (buffer (start + 3)).toNat := by
    rw [← Nat.shiftLeft_add_eq_or_of_lt h3, Nat.shiftLeft_eq]
  have hmiddle : (buffer (start + 1)).toNat <<< 16 |||
      ((buffer (start + 2)).toNat * 2 ^ 8 + (buffer (start + 3)).toNat) =
      (buffer (start + 1)).toNat * 2 ^ 16 +
        ((buffer (start + 2)).toNat * 2 ^ 8 + (buffer (start + 3)).toNat) := by
    rw [← Nat.shiftLeft_add_eq_or_of_lt (by omega), Nat.shiftLeft_eq]
  calc wordAt buffer start = (buffer start).toNat <<< 24 ||| ((buffer (start + 1)).toNat <<< 16 |||
        ((buffer (start + 2)).toNat <<< 8 ||| (buffer (start + 3)).toNat)) := by
        rw [wordAt, Nat.or_assoc, Nat.or_assoc]
    _ = (buffer start).toNat * 2 ^ 24 + ((buffer (start + 1)).toNat * 2 ^ 16 +
        ((buffer (start + 2)).toNat * 2 ^ 8 + (buffer (start + 3)).toNat)) := by
        rw [hlow, hmiddle, ← Nat.shiftLeft_add_eq_or_of_lt (by omega), Nat.shiftLeft_eq]
    _ = _ := by omega

theorem wordAt_type (buffer : Block) (start : ℕ) :
    (wordAt buffer start &&& 0xff0000) >>> 16 = (buffer (start + 1)).toNat := by
  have h1 := (buffer (start + 1)).toNat_lt
  have h2 := (buffer (start + 2)).toNat_lt
  have h3 := (buffer (start + 3)).toNat_lt
  have hmask (n : ℕ) : (n &&& 0xff0000) >>> 16 = n >>> 16 % 2 ^ 8 := by
    rw [Nat.shiftRight_and_distrib, ← Nat.and_two_pow_sub_one_eq_mod]
    rfl
  rw [hmask, wordAt_eq, Nat.shiftRight_eq_div_pow]
  omega

theorem wordAt_length (buffer : Block) (start : ℕ) :
    wordAt buffer start &&& 0xffff =
      256 * (buffer (start + 2)).toNat + (buffer (start + 3)).toNat := by
  have h2 := (buffer (start + 2)).toNat_lt
  have h3 := (buffer (start + 3)).toNat_lt
  have hmask : wordAt buffer start &&& 0xffff = wordAt buffer start % 2 ^ 16 :=
    Nat.and_two_pow_sub_one_eq_mod _ 16
  rw [hmask, wordAt_eq]
  omega

/-! ## One packet -/

theorem getD_drop_load (buffer : Block) {start i : ℕ} (h : start + i < size) :
    ((load buffer size).drop start).getD i 0 = buffer (start + i) := by
  rw [List.getD_eq_getElem?_getD, List.getElem?_drop, Memory.getElem?_load buffer h]
  rfl

theorem length_drop_load (buffer : Block) (size start : ℕ) :
    ((load buffer size).drop start).length = size - start := by
  rw [List.length_drop, Memory.length_load]

/-- The loop goes on behind the packet, with what was read of it. -/
theorem done_rtcpRound {v : RtcpLoop} (h : v.done + 4 ≤ size) :
    (rtcpRound buffer v).done = v.done + packetSize ((load buffer size).drop v.done) := by
  rw [packetSize, getD_drop_load buffer (by omega), getD_drop_load buffer (by omega)]
  simp only [rtcpRound, wordAt_length]
  omega

theorem le_done_rtcpRound (buffer : Block) (v : RtcpLoop) :
    v.done + 4 ≤ (rtcpRound buffer v).done := by
  simp only [rtcpRound]
  omega

/-- The string of an application packet and the words in front of it. -/
theorem reads_readApp_within (start : ℕ) (signal : Option Signal) :
    (∀ read ∈ (readApp buffer start signal).2, read.Within size) ↔
      start + 16 + (256 * (buffer (start + 14)).toNat + (buffer (start + 15)).toNat) ≤ size := by
  have hlength := wordAt_length buffer (start + 12)
  unfold readApp
  dsimp only
  rw [hlength]
  generalize 256 * (buffer (start + 12 + 2)).toNat + (buffer (start + 12 + 3)).toNat = length
  split
  case isTrue hpos => simp [Read.Within]; omega
  case isFalse hzero => simp [Read.Within]; omega

theorem stringInside_drop_load {start : ℕ} (h : start + 4 ≤ size) :
    StringInside ((load buffer size).drop start) ↔
      ((buffer (start + 1)).toNat = 204 →
        1 < 256 * (buffer (start + 2)).toNat + (buffer (start + 3)).toNat →
          start + 16 + (256 * (buffer (start + 14)).toNat + (buffer (start + 15)).toNat) ≤
            size) := by
  unfold StringInside packetType packetSize stringSize
  rw [getD_drop_load buffer (by omega), getD_drop_load buffer (by omega),
    getD_drop_load buffer (by omega), length_drop_load]
  by_cases hroom : start + 16 ≤ size
  · rw [getD_drop_load buffer (by omega), getD_drop_load buffer (by omega)]
    omega
  · omega

/-- A round stays in the datagram if the header and the string of its packet do. -/
theorem reads_rtcpRound_within (v : RtcpLoop) :
    (∀ read ∈ (rtcpRound buffer v).reads, read.Within size) ↔
      (∀ read ∈ v.reads, read.Within size) ∧ v.done + 4 ≤ size ∧
        StringInside ((load buffer size).drop v.done) := by
  by_cases hheader : v.done + 4 ≤ size
  · have hreads : (∀ read ∈ (rtcpRound buffer v).reads, read.Within size) ↔
        (∀ read ∈ v.reads, read.Within size) ∧
          ((buffer (v.done + 1)).toNat = 204 ∧
              1 < 256 * (buffer (v.done + 2)).toNat + (buffer (v.done + 3)).toNat →
            ∀ read ∈ (readApp buffer v.done v.signal).2, read.Within size) := by
      simp only [rtcpRound, wordAt_type, wordAt_length, List.forall_mem_append,
        List.forall_mem_cons]
      split
      case isTrue happ => simp [happ, Read.Within, hheader]
      case isFalse happ => simp [happ, Read.Within, hheader]
    rw [hreads, reads_readApp_within, stringInside_drop_load hheader, and_imp]
    simp only [hheader, true_and]
  · have hword : ¬∀ read ∈ (rtcpRound buffer v).reads, read.Within size := by
      intro hall
      have hfirst : Read.Within size ⟨v.done, 4⟩ := hall _ (by simp [rtcpRound])
      exact hheader hfirst
    simp only [hword, hheader, false_and, and_false]

/-! ## The loop -/

/-- By induction on the loop; each round brings the end nearer by a word at least. -/
theorem rtcpLoop_ends (buffer : Block) (size : ℕ) (v : RtcpLoop) :
    ∃ rounds, 4 * rounds ≤ size - v.done + 3 ∧
      rtcpLoop buffer size v = (rtcpRound buffer)^[rounds] v ∧
      size ≤ (rtcpLoop buffer size v).done := by
  fun_induction rtcpLoop buffer size v with
  | case1 v hlt ih =>
    obtain ⟨rounds, hrounds, heq, hend⟩ := ih
    have hnext := le_done_rtcpRound buffer v
    refine ⟨rounds + 1, by omega, heq, hend⟩
  | case2 v hend => exact ⟨0, Nat.zero_le _, rfl, Nat.le_of_not_lt hend⟩

/-- By induction on the loop: what is left of the datagram is well framed if the rest of the packet
at its front is. -/
theorem reads_rtcpLoop_within (v : RtcpLoop) :
    (∀ read ∈ (rtcpLoop buffer size v).reads, read.Within size) ↔
      (∀ read ∈ v.reads, read.Within size) ∧ WellFramed ((load buffer size).drop v.done) := by
  fun_induction rtcpLoop buffer size v with
  | case1 v hlt ih =>
    have hne : (load buffer size).drop v.done ≠ [] := by
      rw [← List.length_pos_iff, length_drop_load]
      omega
    have hheader : 4 ≤ ((load buffer size).drop v.done).length ↔ v.done + 4 ≤ size := by
      rw [length_drop_load]
      omega
    rw [ih, reads_rtcpRound_within, wellFramed_iff hne, hheader, List.drop_drop]
    by_cases hfour : v.done + 4 ≤ size
    · rw [done_rtcpRound hfour, and_assoc, and_assoc]
    · simp only [hfour, false_and, and_false]
  | case2 v hend =>
    have hnil : (load buffer size).drop v.done = [] := by
      rw [← List.length_eq_zero_iff, length_drop_load]
      omega
    rw [hnil]
    exact ⟨fun h ↦ ⟨h, .nil⟩, And.left⟩

/-- The loop ends after a round for every four bytes, whatever the buffer holds.  Every read lies in
the datagram just if it is well framed. -/
theorem rtcpData_in_bounds_iff (buffer : Block) (size : ℕ) (signal : Option Signal) :
    (∃ rounds, 4 * rounds ≤ size + 3 ∧
      rtcpData buffer size signal = (rtcpRound buffer)^[rounds] { signal := signal } ∧
      size ≤ (rtcpData buffer size signal).done) ∧
    ((∀ read ∈ (rtcpData buffer size signal).reads, read.Within size) ↔
      WellFramed (load buffer size)) := by
  constructor
  · exact rtcpLoop_ends buffer size { signal := signal }
  · rw [rtcpData, reads_rtcpLoop_within, List.drop_zero]
    exact ⟨And.right, fun h ↦ ⟨by simp, h⟩⟩

/-- A datagram of one header, which announces an application packet of twelve bytes. -/
theorem not_rtcpData_in_bounds :
    ¬∀ read ∈ (rtcpData (Memory.store (fun _ ↦ 0) 0 [128, 204, 0, 2]) 4 (some {})).reads,
      read.Within 4 := by
  intro hall
  have hname : (⟨8, 4⟩ : Read) ∈
      (rtcpData (Memory.store (fun _ ↦ 0) 0 [128, 204, 0, 2]) 4 (some {})).reads := by
    rw [rtcpData, rtcpLoop, if_pos (by decide), rtcpLoop, if_neg (by decide)]
    decide
  exact absurd (hall _ hname) (by unfold Read.Within; decide)

end SatipClient.RTP
