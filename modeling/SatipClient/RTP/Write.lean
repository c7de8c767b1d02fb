import SatipClient.RTP.Receivers

/-!
# Writing to the device

`Write` hands a buffer to the vtuner device piece by piece: each call of `write` accepts some of
the bytes it is offered, is interrupted or fails.  Whatever the calls answer, the device has
accepted a prefix of the buffer, and `Write` returns the size of the buffer just when it has
accepted all of it.
-/

namespace SatipClient.RTP

/-- A call of `Write`. -/
structure WriteCall where
  /-- the bytes that the device accepted -/
  accepted : List UInt8
  /-- `none` while the call has not returned -/
  returned : Option ℤ
  deriving DecidableEq

/-- The loop of `Write` with `count` bytes written; `write` accepts no more than it is offered. -/
def writeLoop (buffer : List UInt8) (count : ℕ) : List WriteResult → WriteCall
  | [] => if count < buffer.length then ⟨[], none⟩ else ⟨[], some count⟩
  | result :: results =>
    if count < buffer.length then
      match result with
      | .wrote bytes =>
        let part := (buffer.drop count).take bytes
        if part.length = 0 then ⟨[], some (-1)⟩
        else
          let rest := writeLoop buffer (count + part.length) results
          { rest with accepted := part ++ rest.accepted }
      | .interrupted => writeLoop buffer count results
      | .failed => ⟨[], some (-1)⟩
    else ⟨[], some count⟩

/-- `Write` -/
def writeBuffer (results : List WriteResult) (buffer : List UInt8) : WriteCall :=
  writeLoop buffer 0 results

example : writeBuffer [.wrote 2, .interrupted, .wrote 5] [1, 2, 3] = ⟨[1, 2, 3], some 3⟩ := by
  decide

/-- A writing of the rest of a buffer: a prefix of it is accepted, and the size is returned just
when that is all. -/
structure Writes (buffer : List UInt8) (count : ℕ) (call : WriteCall) : Prop where
  accepted : call.accepted <+: buffer.drop count
  returned : call.returned = some (buffer.length : ℤ) ↔ call.accepted = buffer.drop count

variable {buffer : List UInt8} {count : ℕ}

/-- There is nothing more to write. -/
theorem writeLoop_of_le (h : buffer.length ≤ count) (results : List WriteResult) :
    writeLoop buffer count results = ⟨[], some (count : ℤ)⟩ := by
  cases results with
  | nil => exact if_neg (Nat.not_lt.mpr h)
  | cons result results => cases result <;> exact if_neg (Nat.not_lt.mpr h)

theorem write_nil (results : List WriteResult) : write results [] = [] := by
  induction results with
  | nil => rfl
  | cons result results ih =>
    cases result with
    | wrote bytes => simp [write, ih]
    | interrupted => exact ih
    | failed => rfl

theorem writes_of_lt {returned : Option ℤ} (hcount : count < buffer.length)
    (hreturned : returned ≠ some (buffer.length : ℤ)) : Writes buffer count ⟨[], returned⟩ := by
  have hrest : [] ≠ buffer.drop count := by
    intro hnil
    have hle : buffer.length ≤ count := List.drop_eq_nil_iff.mp hnil.symm
    omega
  exact ⟨List.nil_prefix, iff_of_false hreturned hrest⟩

theorem writes_of_eq (hcount : count = buffer.length) :
    Writes buffer count ⟨[], some (count : ℤ)⟩ := by
  have hrest : buffer.drop count = [] := List.drop_eq_nil_of_le hcount.ge
  rw [hcount] at hrest ⊢
  exact ⟨List.nil_prefix, iff_of_true rfl hrest.symm⟩

/-- The loop goes on behind a part that was accepted. -/
theorem Writes.append {part : List UInt8} {call : WriteCall}
    (hpart : part <+: buffer.drop count) (h : Writes buffer (count + part.length) call) :
    Writes buffer count { call with accepted := part ++ call.accepted } := by
  have hdrop : buffer.drop count = part ++ buffer.drop (count + part.length) := by
    obtain ⟨rest, hrest⟩ := hpart
    rw [← List.drop_drop, ← hrest, List.drop_left]
  refine ⟨?_, ?_⟩
  · rw [hdrop]
    exact (List.prefix_append_right_inj part).mpr h.accepted
  · rw [hdrop, List.append_cancel_left_eq]
    exact h.returned

/-- By induction on the results; `count` bytes were accepted before. -/
theorem writes_writeLoop (results : List WriteResult) (hcount : count ≤ buffer.length) :
    Writes buffer count (writeLoop buffer count results) := by
  induction results generalizing count with
  | nil =>
    rw [writeLoop]
    split
    · exact writes_of_lt ‹_› (by simp)
    · exact writes_of_eq (by omega)
  | cons result results ih =>
    by_cases hmore : count < buffer.length
    · have hfailed : Writes buffer count ⟨[], some (-1)⟩ := by
        apply writes_of_lt hmore
        intro hsize
        have hneg : (-1 : ℤ) = buffer.length := Option.some.inj hsize
        omega
      cases result with
      | interrupted =>
        rw [writeLoop, if_pos hmore]
        exact ih hcount
      | failed =>
        rw [writeLoop, if_pos hmore]
        exact hfailed
      | wrote bytes =>
        rw [writeLoop, if_pos hmore]
        dsimp only
        split
        · exact hfailed
        · have hpart : (buffer.drop count).take bytes <+: buffer.drop count :=
            List.take_prefix bytes _
          have hlength := hpart.length_le
          rw [List.length_drop] at hlength
          exact (ih (by omega)).append hpart
    · rw [writeLoop_of_le (Nat.le_of_not_lt hmore)]
      exact writes_of_eq (by omega)

/-- The bytes are those that the receivers count as written. -/
theorem accepted_writeLoop (results : List WriteResult) (buffer : List UInt8) (count : ℕ) :
    (writeLoop buffer count results).accepted = write results (buffer.drop count) := by
  induction results generalizing count with
  | nil =>
    rw [writeLoop, write]
    · split <;> rfl
    · simp
    · simp
  | cons result results ih =>
    by_cases hmore : count < buffer.length
    · cases result with
      | interrupted =>
        rw [writeLoop, if_pos hmore]
        exact ih count
      | failed =>
        rw [writeLoop, if_pos hmore]
        rfl
      | wrote bytes =>
        have hrest : (buffer.drop count).length = buffer.length - count := List.length_drop
        rw [writeLoop, if_pos hmore]
        dsimp only
        by_cases hbytes : bytes = 0
        · simp [write, hbytes]
        · have hpart : ((buffer.drop count).take bytes).length ≠ 0 := by
            rw [List.length_take]
            omega
          have hdrop : buffer.drop (count + ((buffer.drop count).take bytes).length) =
              (buffer.drop count).drop bytes := by
            rw [← List.drop_drop, List.length_take]
            rcases Nat.le_total bytes (buffer.drop count).length with hle | hle
            · rw [min_eq_left hle]
            · rw [min_eq_right hle, List.drop_length, List.drop_eq_nil_of_le hle]
          rw [if_neg hpart, write, if_neg hbytes, ← hdrop, ← ih]
    · rw [writeLoop_of_le (Nat.le_of_not_lt hmore), List.drop_eq_nil_of_le (Nat.le_of_not_lt hmore),
        write_nil]

/-- Whatever `write` answers, a prefix of the buffer is accepted, and its size returned just when
that is the whole of it.  Buffers whose sizes are all returned reach the device one behind the
other. -/
theorem writeBuffer_prefix :
    (∀ results buffer, (writeBuffer results buffer).accepted <+: buffer ∧
      ((writeBuffer results buffer).returned = some (buffer.length : ℤ) ↔
        (writeBuffer results buffer).accepted = buffer)) ∧
    ∀ (packets : List (List WriteResult × List UInt8)) (s : SatipRTP),
      (∀ packet ∈ packets,
        (writeBuffer packet.1 packet.2).returned = some (packet.2.length : ℤ)) →
      (packets.foldl (fun s packet ↦ deliver packet.1 packet.2 s) s).written =
        s.written ++ (packets.map Prod.snd).flatten := by
  have hwrites (results : List WriteResult) (buffer : List UInt8) :
      Writes buffer 0 (writeBuffer results buffer) := writes_writeLoop results (Nat.zero_le _)
  refine ⟨fun results buffer ↦
    ⟨(hwrites results buffer).accepted, (hwrites results buffer).returned⟩, fun packets ↦ ?_⟩
  induction packets with
  | nil => simp
  | cons packet packets ih =>
    intro s hfull
    have hfirst : write packet.1 packet.2 = packet.2 := by
      have haccepted := accepted_writeLoop packet.1 packet.2 0
      rw [List.drop_zero] at haccepted
      rw [← haccepted]
      exact (hwrites packet.1 packet.2).returned.mp (hfull packet List.mem_cons_self)
    have hrest := ih (deliver packet.1 packet.2 s) fun other hother ↦
      hfull other (List.mem_cons_of_mem packet hother)
    rw [List.foldl_cons, hrest, List.map_cons, List.flatten_cons, ← List.append_assoc]
    change s.written ++ write packet.1 packet.2 ++ _ = _
    rw [hfirst]

theorem writeBuffer_prefix_twoPackets :
    ([([.wrote 1, .interrupted, .wrote 5], [1, 2]), ([.wrote 3], [3])].foldl
      (fun s packet ↦ deliver packet.1 packet.2 s) ({ hasPsi := false } : SatipRTP)).written =
        [] ++ [[1, 2], [3]].flatten :=
  writeBuffer_prefix.2 _ _ (by decide)

end SatipClient.RTP
