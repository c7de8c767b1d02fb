import SatipClient.RTSP.Session
import SatipClient.RTSP.Simulation

/-!
# The bounds of the receive buffer

`m_rx_data_pos` is moved by what is received, by the frames and responses taken off the buffer, and
by resets.  It stays within the buffer, and with it every access, as long as no `recv` fails while
the buffer is empty (`rxData_in_bounds`): the result -1 is added to the position like a length.
-/

namespace SatipClient.RTSP

open CString (ofBytes)

/-- An access to the receive buffer. -/
inductive Access where
  /-- `recv` is handed `size` bytes from `start` on -/
  | recv (start size : ℤ)
  /-- the terminating NUL is written -/
  | nul (index : ℤ)
  /-- `memmove` of `size` bytes from `source` on, of the bytes that were received -/
  | memmove (source size received : ℤ)

/-- The access stays within the buffer, and a `memmove` within what was received. -/
def Access.Within (len : ℤ) : Access → Prop
  | .recv start size => 0 ≤ start ∧ 0 ≤ size ∧ start + size ≤ len
  | .nul index => 0 ≤ index ∧ index < len
  | .memmove source size received => 0 ≤ source ∧ 0 ≤ size ∧ source + size ≤ received

/-- What a round of the loop does with the buffer; what is behind a response is moved whether the
response is accepted or not. -/
def roundAccesses (s : SatipRTSP) : List Access :=
  if s.rxData 0 = dollar then
    if isTcpData s = false ∨ s.rxDataPos < 4 ∨ s.rxDataPos < frameSize s then []
    else [.memmove (frameSize s) (s.rxDataPos - frameSize s) s.rxDataPos]
  else
    .nul s.rxDataPos ::
      match responseSize (ofBytes (received (terminated s))) with
      | none => []
      | some size => [.memmove size (s.rxDataPos - size) s.rxDataPos]

/-- The accesses of the loop of `handleResponse`. -/
def loopAccesses (now : Timespec) (res : Result) (resCode : ℤ) (s : SatipRTSP) : List Access :=
  roundAccesses s ++
    match _h : round now res resCode s with
    | some (.again res' resCode' next) => loopAccesses now res' resCode' next
    | _ => []
termination_by s.rxDataPos.toNat
decreasing_by exact rxDataPos_lt_of_again _h

/-- The accesses of `handleResponse`. -/
def handleResponseAccesses (now : Timespec) (recv : Recv) (s : SatipRTSP) : List Access :=
  if room s = 0 then []
  else
    .recv s.rxDataPos (room s) ::
      match recv with
      | .failure => loopAccesses now .error 0 (withBuffer s.rxData (s.rxDataPos - 1) s)
      | .bytes available =>
        if available.take (room s).toNat = [] ∨ s.rxDataPos < 0 then []
        else
          loopAccesses now .error 0 (withBuffer
            (Memory.store s.rxData s.rxDataPos.toNat (available.take (room s).toNat))
            (s.rxDataPos + (available.take (room s).toNat).length) s)

/-- What can happen to the receive buffer. -/
inductive RxOp where
  | handleResponse (now : Timespec) (recv : Recv)
  | resetConnect (now : Timespec) (autoReconnect : Bool)
  /-- anything else that the session does, which leaves the buffer alone -/
  | other (next : SatipRTSP)

/-- Perform one operation. -/
def RxOp.step (s : SatipRTSP) : RxOp → Option SatipRTSP
  | .handleResponse now recv => (RTSP.handleResponse now recv s).map Prod.snd
  | .resetConnect now autoReconnect => some (RTSP.resetConnect now autoReconnect s)
  | .other next =>
    some { next with rxData := s.rxData, rxDataLen := s.rxDataLen, rxDataPos := s.rxDataPos }

/-- The accesses of one operation. -/
def RxOp.accesses (s : SatipRTSP) : RxOp → List Access
  | .handleResponse now recv => handleResponseAccesses now recv s
  | _ => []

/-- A `recv` fails while nothing is in the buffer. -/
def RxOp.FailsEmpty (s : SatipRTSP) : RxOp → Prop
  | .handleResponse _ .failure => s.rxDataPos = 0
  | _ => False

/-- The position is one in the buffer. -/
def Bounded (s : SatipRTSP) : Prop := 0 ≤ s.rxDataPos ∧ s.rxDataPos ≤ s.rxDataLen - 1

/-- The bounds hold before and after the operation, and for all its accesses. -/
structure RxOp.InBounds (s : SatipRTSP) (op : RxOp) : Prop where
  before : Bounded s
  accesses : ∀ access ∈ op.accesses s, access.Within s.rxDataLen
  after : ∀ next, op.step s = some next → Bounded next

variable {s next : SatipRTSP} {now : Timespec} {res : Result} {resCode : ℤ}

/-- A reset empties the buffer. -/
theorem rxData_resetConnect (now : Timespec) (autoReconnect : Bool) (s : SatipRTSP) :
    (resetConnect now autoReconnect s).rxDataPos = 0 ∧
      (resetConnect now autoReconnect s).rxDataLen = s.rxDataLen := by
  rcases resetConnect_cases now autoReconnect s with ⟨heq, -⟩ | ⟨heq, -⟩ <;> rw [heq] <;>
    exact ⟨rfl, rfl⟩

/-! ## The loop -/

/-- A round takes a complete message off the buffer, or nothing. -/
theorem bounded_of_round {r : Round} (hs : Bounded s)
    (hres : res = .error ∨ res = .responseComplete) (h : round now res resCode s = some r) :
    r.Meets (fun res' _ next ↦ (res' = .error ∨ res' = .responseComplete) ∧ Bounded next ∧
        next.rxDataLen = s.rxDataLen)
      fun _ next ↦ Bounded next ∧ next.rxDataLen = s.rxDataLen := by
  obtain ⟨hnonneg, hlast⟩ := hs
  have htaken {size : ℕ}
      (hmessage : firstMessage (isTcpData s) (received s) = some (.frame size) ∨
        firstMessage (isTcpData s) (received s) = some (.response size)) :
      0 ≤ s.rxDataPos - size ∧ s.rxDataPos - size ≤ s.rxDataLen - 1 := by
    have hsize : (size : ℤ) ≤ s.rxDataPos := size_le_rxDataPos hmessage
    constructor <;> omega
  have hcase : RoundCase now res resCode s r := roundCase_of_round now res resCode hres h
  cases hcase with
  | wait res' s' _ hs' =>
    rcases hs' with rfl | rfl
    · exact ⟨⟨hnonneg, hlast⟩, rfl⟩
    · exact ⟨⟨hnonneg, hlast⟩, rfl⟩
  | frame size after hmessage hafter =>
    obtain ⟨config, rfl, -⟩ := rtpTcpData_cases hafter
    exact ⟨hres, htaken (Or.inl hmessage), rfl⟩
  | reset =>
    obtain ⟨hpos, hlen⟩ := rxData_resetConnect now true
      (record (.response (firstResponse _ s)) (terminated s))
    refine ⟨⟨hpos.ge, ?_⟩, hlen⟩
    rw [hpos, hlen]
    exact hnonneg.trans hlast
  | more size sessionId timeout streamId resCode' hmessage =>
    exact ⟨Or.inr rfl, htaken (Or.inr hmessage), rfl⟩
  | last size sessionId timeout streamId hmessage =>
    exact ⟨htaken (Or.inr hmessage), rfl⟩

theorem roundAccesses_within (hs : Bounded s) :
    ∀ access ∈ roundAccesses s, access.Within s.rxDataLen := by
  obtain ⟨hnonneg, hlast⟩ := hs
  intro access haccess
  unfold roundAccesses at haccess
  split_ifs at haccess with hdollar hshort
  · cases haccess
  · obtain rfl := List.mem_singleton.mp haccess
    refine ⟨Int.natCast_nonneg _, ?_, ?_⟩ <;> omega
  · rcases List.mem_cons.mp haccess with rfl | hmoved
    · exact ⟨hnonneg, by omega⟩
    · split at hmoved
      case h_1 => cases hmoved
      case h_2 size hsize =>
        obtain rfl := List.mem_singleton.mp hmoved
        rw [received_terminated] at hsize
        have hle : (size : ℤ) ≤ s.rxDataPos :=
          size_le_rxDataPos (Or.inr (firstMessage_eq_response_iff.mpr
            ⟨head?_received_ne hdollar, hsize⟩))
        refine ⟨Int.natCast_nonneg _, ?_, ?_⟩ <;> omega

theorem loopAccesses_within (hs : Bounded s) (hres : res = .error ∨ res = .responseComplete) :
    ∀ access ∈ loopAccesses now res resCode s, access.Within s.rxDataLen := by
  induction res, resCode, s using loopAccesses.induct now with
  | case1 res resCode s ih =>
    intro access haccess
    rw [loopAccesses, List.mem_append] at haccess
    rcases haccess with hhere | hlater
    · exact roundAccesses_within hs access hhere
    · split at hlater
      case h_1 res' resCode' next hround =>
        obtain ⟨hres', hnext, hlen⟩ := bounded_of_round hs hres hround
        rw [← hlen]
        exact ih res' resCode' next hround hnext hres' access hlater
      case h_2 => cases hlater

theorem bounded_of_loop (hs : Bounded s) (h : loop now .error 0 s = some (res, next)) :
    Bounded next ∧ next.rxDataLen = s.rxDataLen := by
  refine loop_invariant
    (fun res _ mid ↦ (res = .error ∨ res = .responseComplete) ∧ Bounded mid ∧
      mid.rxDataLen = s.rxDataLen)
    (fun _ mid ↦ Bounded mid ∧ mid.rxDataLen = s.rxDataLen) ?_ ⟨Or.inl rfl, hs, rfl⟩ h
  rintro res resCode mid r ⟨hres, hmid, hlen⟩ hround
  rw [← hlen]
  exact bounded_of_round hmid hres hround

/-! ## Receiving -/

/-- The position is one in a buffer that has room for a byte besides the NUL. -/
structure Roomy (s : SatipRTSP) : Prop where
  bounded : Bounded s
  roomy : 1 < s.rxDataLen

theorem Roomy.of_bounded (h : Roomy s) (hnext : Bounded next ∧ next.rxDataLen = s.rxDataLen) :
    Roomy next where
  bounded := hnext.1
  roomy := by
    rw [hnext.2]
    exact h.roomy

/-- A failed `recv` takes a byte away. -/
theorem bounded_failure (hs : Bounded s) (hsome : s.rxDataPos ≠ 0) (rxData : Memory.Block) :
    Bounded (withBuffer rxData (s.rxDataPos - 1) s) := by
  obtain ⟨hnonneg, hlast⟩ := hs
  constructor <;> dsimp only [withBuffer] <;> omega

/-- What is received fits into the room that `recv` was given. -/
theorem bounded_bytes (hs : Bounded s) (available : List UInt8) (rxData : Memory.Block) :
    Bounded (withBuffer rxData (s.rxDataPos + (available.take (room s).toNat).length) s) := by
  obtain ⟨hnonneg, hlast⟩ := hs
  have htaken : (available.take (room s).toNat).length ≤ (room s).toNat := List.length_take_le _ _
  have hroom : room s = s.rxDataLen - s.rxDataPos - 1 := rfl
  constructor <;> dsimp only [withBuffer] <;> omega

theorem bounded_of_handleResponse {recv : Recv} (hs : Bounded s)
    (hok : ¬RxOp.FailsEmpty s (.handleResponse now recv))
    (h : handleResponse now recv s = some (res, next)) :
    Bounded next ∧ next.rxDataLen = s.rxDataLen := by
  unfold handleResponse at h
  by_cases hroom : room s = 0
  · rw [if_pos hroom] at h
    cases h
    exact ⟨⟨le_refl 0, hs.1.trans hs.2⟩, rfl⟩
  · rw [if_neg hroom] at h
    cases recv with
    | failure =>
      have hnext := bounded_of_loop (bounded_failure hs hok _) h
      exact hnext
    | bytes available =>
      dsimp only at h
      split_ifs at h
      · cases h
        exact ⟨hs, rfl⟩
      · have hnext := bounded_of_loop (bounded_bytes hs available _) h
        exact hnext

theorem handleResponseAccesses_within {recv : Recv} (hs : Bounded s)
    (hok : ¬RxOp.FailsEmpty s (.handleResponse now recv)) :
    ∀ access ∈ handleResponseAccesses now recv s, access.Within s.rxDataLen := by
  intro access haccess
  unfold handleResponseAccesses at haccess
  split_ifs at haccess with hroom
  · cases haccess
  rcases List.mem_cons.mp haccess with rfl | hlater
  · obtain ⟨hnonneg, hlast⟩ := hs
    have hsize : room s = s.rxDataLen - s.rxDataPos - 1 := rfl
    refine ⟨hnonneg, ?_, ?_⟩ <;> omega
  · cases recv with
    | failure =>
      exact loopAccesses_within (bounded_failure hs hok _) (Or.inl rfl) access hlater
    | bytes available =>
      dsimp only at hlater
      split_ifs at hlater
      · cases hlater
      · exact loopAccesses_within (bounded_bytes hs available _) (Or.inl rfl) access hlater

/-! ## Runs -/

theorem roomy_of_step {op : RxOp} (hs : Roomy s) (hok : ¬op.FailsEmpty s)
    (h : op.step s = some next) : Roomy next := by
  apply hs.of_bounded
  cases op with
  | handleResponse now recv =>
    obtain ⟨⟨res, mid⟩, hmid, rfl⟩ := Option.map_eq_some_iff.mp h
    exact bounded_of_handleResponse hs.bounded hok hmid
  | resetConnect now autoReconnect =>
    obtain rfl := Option.some.inj h
    obtain ⟨hpos, hlen⟩ := rxData_resetConnect now autoReconnect s
    refine ⟨⟨hpos.ge, ?_⟩, hlen⟩
    rw [hpos, hlen]
    exact hs.bounded.1.trans hs.bounded.2
  | other next' =>
    obtain rfl := Option.some.inj h
    exact ⟨hs.bounded, rfl⟩

theorem rxDataPos_failure (hempty : s.rxDataPos = 0) :
    (withBuffer s.rxData (s.rxDataPos - 1) s).rxDataPos = -1 := by
  dsimp only [withBuffer]
  rw [hempty]
  rfl

/-- The NUL is written in front of a buffer that is empty when `recv` fails. -/
theorem nul_mem_of_failure (hempty : s.rxDataPos = 0) (hroom : room s ≠ 0)
    (hdollar : s.rxData 0 ≠ dollar) : Access.nul (-1) ∈ handleResponseAccesses now .failure s := by
  have hfront : (withBuffer s.rxData (s.rxDataPos - 1) s).rxData 0 ≠ dollar := hdollar
  rw [handleResponseAccesses, if_neg hroom, loopAccesses, roundAccesses, if_neg hfront,
    rxDataPos_failure hempty]
  exact List.mem_cons_of_mem _ (List.mem_append_left _ List.mem_cons_self)

/-- In front of a frame the position stays -1, and in front of text the NUL is written there. -/
theorem not_inBounds_of_failsEmpty {op : RxOp} (hs : Roomy s) (hfails : op.FailsEmpty s) :
    ¬op.InBounds s := by
  intro hbounds
  obtain ⟨now, rfl⟩ : ∃ now, op = .handleResponse now .failure := by
    cases op with
    | handleResponse now recv =>
      cases recv with
      | failure => exact ⟨now, rfl⟩
      | bytes available => exact hfails.elim
    | resetConnect => exact hfails.elim
    | other => exact hfails.elim
  have hempty : s.rxDataPos = 0 := hfails
  have hroom : room s ≠ 0 := by
    have hroomy := hs.roomy
    have hsize : room s = s.rxDataLen - s.rxDataPos - 1 := rfl
    omega
  by_cases hdollar : s.rxData 0 = dollar
  · set mid := withBuffer s.rxData (s.rxDataPos - 1) s with hmid
    have hnegative : mid.rxDataPos = -1 := rxDataPos_failure hempty
    have hfront : mid.rxData 0 = dollar := hdollar
    obtain ⟨res, hround⟩ : ∃ res, round now .error 0 mid = some (.stop res mid) := by
      rw [round, if_pos hfront, frameRound]
      split
      · exact ⟨.error, rfl⟩
      · rw [if_pos (by omega)]
        exact ⟨.ok, rfl⟩
    have hstep : (RxOp.handleResponse now .failure).step s = some mid := by
      rw [RxOp.step, RTSP.handleResponse, if_neg hroom, ← hmid, loop_eq, hround]
      rfl
    have hafter := (hbounds.after mid hstep).1
    omega
  · have hwithin := (hbounds.accesses _ (nul_mem_of_failure hempty hroom hdollar)).1
    omega

theorem inBounds_iff {op : RxOp} (hs : Roomy s) : op.InBounds s ↔ ¬op.FailsEmpty s := by
  constructor
  · intro hbounds hfails
    exact not_inBounds_of_failsEmpty hs hfails hbounds
  · intro hok
    refine ⟨hs.bounded, ?_, fun next hnext ↦ (roomy_of_step hs hok hnext).bounded⟩
    cases op with
    | handleResponse now recv => exact handleResponseAccesses_within hs.bounded hok
    | resetConnect | other =>
      intro access haccess
      cases haccess

theorem roomy_start (args : SessionArgs) : Roomy args.start := by
  obtain ⟨hpos, hlen⟩ := rxData_resetConnect args.now false
    { host := args.host
      port := args.port
      rtpPort := args.rtpPort
      config := Config.construct args.feType args.settings
      rxData := args.block
      rxDataLen :=
        if (Config.construct args.feType args.settings).settings.tcpdata then 256 * 1024 else 2048 }
  have hroomy : 1 < args.start.rxDataLen := by
    rw [show args.start.rxDataLen = _ from hlen]
    dsimp only
    split <;> norm_num
  refine ⟨⟨?_, ?_⟩, hroomy⟩
  · rw [show args.start.rxDataPos = _ from hpos]
  · rw [show args.start.rxDataPos = _ from hpos]
    omega

/-- In a run of `handleResponse` and resets, whatever is received and whatever happens in between,
the position and all accesses stay within the receive buffer just when no `recv` fails while the
buffer is empty. -/
theorem rxData_in_bounds (args : SessionArgs) (ops : List RxOp) :
    Runs.EachStep RxOp.step (fun s op ↦ op.InBounds s) args.start ops ↔
      Runs.EachStep RxOp.step (fun s op ↦ ¬op.FailsEmpty s) args.start ops := by
  have hiff : ∀ s (op : RxOp), Roomy s → (op.InBounds s ↔ ¬op.FailsEmpty s) :=
    fun s op hs ↦ inBounds_iff hs
  have hstep : ∀ s (op : RxOp) next, Roomy s → ¬op.FailsEmpty s → RxOp.step s op = some next →
      Roomy next := fun s op next hs hok hnext ↦ roomy_of_step hs hok hnext
  exact Runs.eachStep_congr hiff hstep (roomy_start args) ops

/-- The first `recv` of a session fails, and the NUL is written in front of the buffer. -/
theorem rxData_in_front : ∃ s, Runs.run step udpArgs.start setupRun = some s ∧
    handleResponse {} .failure s = none ∧
    Access.nul (-1) ∈ handleResponseAccesses {} .failure s ∧
    ¬(Access.nul (-1)).Within s.rxDataLen := by
  have hrun : (Runs.run step udpArgs.start setupRun).map (fun s ↦
      decide (s.rxDataPos = 0 ∧ room s ≠ 0 ∧ s.rxData 0 ≠ dollar)) = some true := by decide +kernel
  obtain ⟨s, hs, hfacts⟩ := Option.map_eq_some_iff.mp hrun
  obtain ⟨hempty, hroom, hdollar⟩ := of_decide_eq_true hfacts
  have hnegative := rxDataPos_failure hempty
  have hfront : (withBuffer s.rxData (s.rxDataPos - 1) s).rxData 0 ≠ dollar := hdollar
  refine ⟨s, hs, ?_, nul_mem_of_failure hempty hroom hdollar,
    fun hwithin ↦ absurd hwithin.1 (by decide)⟩
  rw [handleResponse, if_neg hroom, loop_eq, round, if_neg hfront, textRound,
    if_pos (Or.inl (by omega))]
  rfl

/-! ## Sessions -/

theorem rxData_advance (now : Timespec) (status : RtspStatus) (res : Result) (s : SatipRTSP) :
    ((advance now status res s).rxDataPos = s.rxDataPos ∨
        (advance now status res s).rxDataPos = 0) ∧
      (advance now status res s).rxDataLen = s.rxDataLen := by
  unfold advance
  split
  · cases status with
    | sessionTeardowning =>
      obtain ⟨hpos, hlen⟩ := rxData_resetConnect now false s
      exact ⟨Or.inr hpos, hlen⟩
    | _ => exact ⟨Or.inl rfl, rfl⟩
  · exact ⟨Or.inl rfl, rfl⟩

/-- An action that does not receive keeps the position or sets it to 0. -/
theorem rxDataPos_of_action {source : Source} (hsource : source ≠ .receive)
    (h : Action now s source next) : next.rxDataPos = s.rxDataPos ∨ next.rxDataPos = 0 := by
  have hreset (autoReconnect : Bool) (mid : SatipRTSP) :
      (resetConnect now autoReconnect mid).rxDataPos = 0 :=
    (rxData_resetConnect now autoReconnect mid).1
  cases h with
  | connect connect =>
    left
    have hattempt : (attempt s).rxDataPos = s.rxDataPos := by
      unfold attempt
      split <;> rfl
    cases connect with
    | some fd => exact hattempt
    | none => exact hattempt
  | lost | refused | timeout | hangup => exact Or.inr (hreset true _)
  | expire =>
    left
    unfold afterExpired timeoutReconnect
    split <;> rfl
  | advance => exact (rxData_advance now s.rtspStatus .responseComplete s).1
  | ready | buffer | frame | response | badResponse => exact absurd rfl hsource
  | _ => exact Or.inl rfl

/-- The position stays, or the buffer is emptied. -/
theorem Roomy.of_rxDataPos (hs : Roomy s) (hlen : next.rxDataLen = s.rxDataLen)
    (hpos : next.rxDataPos = s.rxDataPos ∨ next.rxDataPos = 0) : Roomy next := by
  refine hs.of_bounded ⟨?_, hlen⟩
  obtain ⟨hnonneg, hlast⟩ := hs.bounded
  rcases hpos with hpos | hpos
  · rw [Bounded, hpos, hlen]
    exact ⟨hnonneg, hlast⟩
  · rw [Bounded, hpos, hlen]
    exact ⟨le_refl 0, hnonneg.trans hlast⟩

theorem roomy_of_actions {sources : Set Source} (hsources : Source.receive ∉ sources)
    (hs : Roomy s) (h : Actions now sources s next) : Roomy next := by
  refine actions_invariant Roomy ?_ h hs
  intro mid source after hsource hmid haction
  have hother : source ≠ .receive := by
    rintro rfl
    exact hsources hsource
  exact hmid.of_rxDataPos (rxDataLen_of_action haction) (rxDataPos_of_action hother haction)

/-- The step is given a `recv` that fails while nothing is in the buffer. -/
def Op.FailsEmpty (s : SatipRTSP) : Op → Prop
  | .handlePollEvents _ _ .failure => s.rxDataPos = 0
  | _ => False

theorem roomy_of_poll {events : PollEvents} {recv : Recv} (hs : Roomy s)
    (hok : ¬Op.FailsEmpty s (.handlePollEvents now events recv))
    (h : handlePollEvents now events recv s = some next) : Roomy next := by
  have hcase : PollCase now events recv s next := pollCase_of_handlePollEvents h
  cases hcase with
  | broken =>
    obtain ⟨hpos, hlen⟩ := rxData_resetConnect now true s
    exact hs.of_rxDataPos hlen (Or.inr hpos)
  | idle => exact hs
  | ready => exact hs.of_rxDataPos rfl (Or.inl rfl)
  | read _ _ _ _ res mid hmid =>
    have hrecv : ¬RxOp.FailsEmpty s (.handleResponse now recv) := by
      cases recv with
      | failure => exact hok
      | bytes available => exact not_false
    have hread : Roomy mid := hs.of_bounded (bounded_of_handleResponse hs.bounded hrecv hmid)
    obtain ⟨hpos, hlen⟩ := rxData_advance now s.rtspStatus res mid
    exact hread.of_rxDataPos hlen hpos

/-- The same for the steps of a session. -/
theorem session_in_bounds (args : SessionArgs) {ops : List Op}
    (hok : Runs.EachStep step (fun s op ↦ ¬op.FailsEmpty s) args.start ops)
    (hrun : Runs.run step args.start ops = some s) : Bounded s := by
  have hstep : ∀ t op t', Roomy t → ¬Op.FailsEmpty t op → step t op = some t' → Roomy t' := by
    intro t op t' ht hop hnext
    cases op with
    | handlePollEvents now events recv => exact roomy_of_poll ht hop hnext
    | handleRTSPStatus | handleNextTimer | vtuner | processTS =>
      refine roomy_of_actions ?_ ht (actions_of_step hnext)
      simp [Op.sources]
  exact (Runs.run_invariant hstep (roomy_start args) hok hrun).bounded

end SatipClient.RTSP
