import SatipClient.Manager.Creation
import SatipClient.RTSP.Socket

/-!
# The descriptors of the process

While `main` creates the sessions, those that are there already connect, fail and connect again, and
every call may fail.  What was open before `main` is never closed, nothing is left open of what
failed or was dropped (`descriptors_kept`), and the sessions that `main` ends up with are those of
the configuration file, each with its own ports (`sessions_waiting`).
-/

namespace SatipClient.Manager

open Descriptors (Thread Table Descriptor Fresh Safe Ensures create createPair bindPort close ask
  fork note ensures_pure ensures_bind ensures_create ensures_createPair ensures_bindPort
  ensures_close ensures_ask ensures_fork ensures_note)
open Options (VtunerOpt)
open RTSP (SatipRTSP SessionArgs Op Event fdAfter)

variable {Ok : Note → Table → Prop} {share limit : ℕ} {held : Table}

/-! ## A session thread -/

/-- The table of a thread that has one descriptor at most. -/
def fdTable (fd : Option ℕ) : Table := fd.elim ∅ fun n ↦ {{ fd := n }}

/-- What the thread has opened for addresses that did not do is closed again. -/
theorem ensures_connectToServer (addresses : ℕ) (hlimit : 0 < limit) :
    Ensures Ok share limit ∅ (connectToServer addresses) fun fd held ↦ held = fdTable fd := by
  induction addresses with
  | zero => exact ensures_pure rfl
  | succ addresses ih =>
    have hretry (fd : ℕ) : Ensures Ok share limit {{ fd := fd }}
        (close (some fd) >>= fun _ ↦ connectToServer addresses) fun fd held ↦
          held = fdTable fd := by
      apply ensures_bind
      refine ensures_close nofun ?_
      rintro n ⟨⟩
      refine ⟨{ fd := fd }, by simp, rfl, ?_⟩
      simpa using ih
    apply ensures_bind
    refine ensures_create (Nat.zero_add 1 ▸ hlimit) ih fun fd _ ↦ ?_
    apply ensures_bind
    refine ensures_ask fun nonblocking ↦ ?_
    cases nonblocking with
    | false => exact hretry fd
    | true =>
      apply ensures_bind
      refine ensures_ask fun connecting ↦ ?_
      cases connecting with
      | false => exact hretry fd
      | true => exact ensures_pure rfl

/-- The connection is closed where the trace says so. -/
theorem ensures_closeDropped (events : List Event) (fd : Option ℕ) :
    Ensures Ok share limit (fdTable fd) (closeDropped events fd) fun _ held ↦
      held = fdTable (events.foldl fdAfter fd) := by
  induction events generalizing fd with
  | nil => exact ensures_pure rfl
  | cons event events ih =>
    cases event with
    | disconnected =>
      apply ensures_bind
      cases fd with
      | none => exact ensures_pure (ih none)
      | some fd =>
        refine ensures_close nofun ?_
        rintro n ⟨⟩
        refine ⟨{ fd := fd }, by simp [fdTable], rfl, ?_⟩
        rw [show (fdTable (some fd)).erase { fd := fd } = fdTable none by simp [fdTable]]
        exact ih none
    | channelChanged | released | connected | connectFailed | request | response | frame | armed
    | expired => exact ih fd

/-- What the thread holds before a step: the connection, or the one that was just made. -/
inductive Prepared (s : SatipRTSP) : Op → Table → Prop where
  | kept (op : Op) (hnot : ¬RTSP.Connects s op) : Prepared s op (fdTable s.fd)
  | connects (now : Timespec) (connect : Option ℕ) (sent : Bool)
    (hconnects : RTSP.Connects s (.handleRTSPStatus now connect sent)) (hfd : s.fd = none) :
    Prepared s (.handleRTSPStatus now connect sent) (fdTable connect)

/-- A connection is made only where there is none. -/
theorem ensures_prepare (addresses : ℕ) {s : SatipRTSP} (h : RTSP.Reachable s) (op : Op) :
    Ensures Ok share 1 (fdTable s.fd) (prepare addresses s op) (Prepared s) := by
  cases op with
  | handleRTSPStatus now connect sent =>
    unfold prepare
    split_ifs with hconnects
    · have hfd : s.fd = none := h.sessionOk.socket.mpr hconnects.1
      rw [hfd]
      apply ensures_bind
      refine (ensures_connectToServer addresses Nat.one_pos).mono fun connect held hheld ↦ ?_
      rw [hheld]
      exact ensures_pure (.connects now connect sent hconnects hfd)
    · exact ensures_pure (.kept _ hconnects)
  | handleNextTimer | handlePollEvents | vtuner | processTS =>
    exact ensures_pure (.kept _ not_false)

/-- Behind the step, the thread holds what the session has. -/
theorem safe_afterStep {s : SatipRTSP} {op : Op} {rest : SatipRTSP → Thread Note}
    (hheld : Prepared s op held)
    (hrest : ∀ next, RTSP.step s op = some next →
      Safe Ok share limit (fdTable next.fd) (rest next)) :
    Safe Ok share limit held (afterStep s rest (RTSP.step s op)) := by
  have hfollows (next : SatipRTSP) (hstep : RTSP.step s op = some next)
      (h : RTSP.Follows s next) : Safe Ok share limit (fdTable s.fd) (afterStep s rest next) := by
    obtain ⟨events, htrace, hfd⟩ := h
    have hnew : next.trace.drop s.trace.length = events := by
      rw [htrace, List.drop_left]
    change Safe Ok share limit (fdTable s.fd)
      (closeDropped (next.trace.drop s.trace.length) s.fd fun _ ↦ rest next)
    rw [hnew]
    refine ensures_closeDropped events s.fd _ fun _ after hafter ↦ ?_
    rw [hafter, ← hfd]
    exact hrest next hstep
  cases hheld with
  | kept _ hnot =>
    cases hnext : RTSP.step s op with
    | none => trivial
    | some next => exact hfollows next hnext (RTSP.follows_of_step hnot hnext)
  | connects now connect sent hconnects hfd =>
    have hstep : RTSP.step s (.handleRTSPStatus now connect sent) =
        some (RTSP.startConnect now connect s) :=
      congrArg some (RTSP.handleRTSPStatus_of_connects hconnects)
    rw [hstep]
    cases connect with
    | none =>
      have hnone := hfollows _ hstep (RTSP.follows_startConnect now s)
      rwa [hfd] at hnone
    | some fd =>
      have hnew : (RTSP.startConnect now (some fd) s).trace.drop s.trace.length = [.connected] := by
        rw [RTSP.trace_startConnect, List.drop_left]
      change Safe Ok share limit (fdTable (some fd)) (closeDropped
        ((RTSP.startConnect now (some fd) s).trace.drop s.trace.length) s.fd fun _ ↦ rest _)
      rw [hnew]
      exact hrest _ hstep

/-- A session thread holds its connection and no other descriptor. -/
theorem safe_sessionThread (ops : List (Op × ℕ)) {s : SatipRTSP} (h : RTSP.Reachable s) :
    Safe Ok 1 1 (fdTable s.fd) (sessionThread ops s) := by
  induction ops generalizing s with
  | nil => trivial
  | cons first ops ih =>
    obtain ⟨op, addresses⟩ := first
    obtain ⟨args, hreach⟩ := h
    refine ensures_prepare addresses ⟨args, hreach⟩ op _ fun op held hheld ↦ ?_
    refine safe_afterStep hheld fun next hnext ↦ ih ?_
    exact ⟨args, hreach.trans (Runs.Reachable.single hnext)⟩

/-! ## What is opened -/

/-- The descriptor with this number, if there is one. -/
def ofFd (fd port : Option ℕ) : List Descriptor := (fd.map fun n ↦ { fd := n, port := port }).toList

/-- To the descriptors that were held, others were added. -/
structure Adds (mine : List Descriptor) (held after : Table) : Prop where
  mem : ∀ d, d ∈ after ↔ d ∈ mine ∨ d ∈ held
  apart : (mine.map Descriptor.fd).Nodup
  fresh : ∀ d ∈ mine, Fresh d.fd held

section Adds

variable {mine more : List Descriptor} {after next : Table}

theorem Adds.refl (held : Table) : Adds [] held held where
  mem := by simp
  apart := List.nodup_nil
  fresh := by simp

theorem Adds.eq (h : Adds [] held after) : after = held := by
  ext d
  simp [h.mem d]

theorem Adds.perm (h : Adds mine held after) (hperm : mine.Perm more) : Adds more held after where
  mem d := by rw [h.mem d, hperm.mem_iff]
  apart := (hperm.map Descriptor.fd).nodup_iff.mp h.apart
  fresh d hd := h.fresh d (hperm.mem_iff.mpr hd)

theorem Adds.trans (h : Adds mine held after) (hmore : Adds more after next) :
    Adds (more ++ mine) held next where
  mem d := by
    rw [hmore.mem d, h.mem d, List.mem_append]
    tauto
  apart := by
    rw [List.map_append, List.nodup_append]
    refine ⟨hmore.apart, h.apart, ?_⟩
    rintro _ hfd _ hfd' rfl
    obtain ⟨d, hd, hsame⟩ := List.mem_map.mp hfd
    obtain ⟨e, he, rfl⟩ := List.mem_map.mp hfd'
    exact hmore.fresh d hd e ((h.mem e).mpr (Or.inl he)) hsame.symm
  fresh d hd := by
    rcases List.mem_append.mp hd with hd | hd
    · exact fun e he ↦ hmore.fresh d hd e ((h.mem e).mpr (Or.inr he))
    · exact h.fresh d hd

theorem Adds.card_le (h : Adds mine held after) : after.card ≤ held.card + mine.length := by
  have hsub : after ⊆ held ∪ mine.toFinset := by
    intro d hd
    rw [Finset.mem_union, List.mem_toFinset]
    exact ((h.mem d).mp hd).symm
  calc after.card
    _ ≤ (held ∪ mine.toFinset).card := Finset.card_le_card hsub
    _ ≤ held.card + mine.toFinset.card := Finset.card_union_le held mine.toFinset
    _ ≤ held.card + mine.length := Nat.add_le_add_left mine.toFinset_card_le held.card

/-- The number of one of them occurs only once. -/
theorem Adds.notMem {d : Descriptor} (h : Adds (d :: mine) held after) : d ∉ mine ∧ d ∉ held := by
  have hfd := (List.nodup_cons.mp h.apart).1
  refine ⟨fun hd ↦ hfd (List.mem_map_of_mem hd), fun hd ↦ ?_⟩
  exact h.fresh d List.mem_cons_self d hd rfl

/-- A descriptor is taken out again, or one with the same number is put in its place. -/
theorem Adds.erase {d : Descriptor} (h : Adds (d :: mine) held after) :
    Adds mine held (after.erase d) where
  mem e := by
    rw [Finset.mem_erase, h.mem e, List.mem_cons]
    constructor
    · rintro ⟨hne, (heq | hmine) | hheld⟩
      · exact absurd heq hne
      · exact Or.inl hmine
      · exact Or.inr hheld
    · obtain ⟨hmine, hheld⟩ := h.notMem
      intro he
      refine ⟨?_, he.imp_left Or.inr⟩
      rintro rfl
      exact he.elim hmine hheld
  apart := (List.nodup_cons.mp h.apart).2
  fresh e he := h.fresh e (List.mem_cons_of_mem d he)

theorem Adds.insert {fd : ℕ} {port port' : Option ℕ}
    (h : Adds ({ fd := fd, port := port } :: mine) held after) :
    Adds ({ fd := fd, port := port' } :: mine) held
      (insert { fd := fd, port := port' } (after.erase { fd := fd, port := port })) where
  mem e := by
    rw [Finset.mem_insert, h.erase.mem e, List.mem_cons, or_assoc]
  apart := h.apart
  fresh := by
    intro e he
    rcases List.mem_cons.mp he with rfl | he
    · exact h.fresh { fd := fd, port := port } List.mem_cons_self
    · exact h.fresh e (List.mem_cons_of_mem _ he)

theorem adds_insert {fd : ℕ} (hfresh : Fresh fd held) :
    Adds (ofFd (some fd) none) held (Insert.insert { fd := fd } held) where
  mem d := by simp [ofFd]
  apart := by simp [ofFd]
  fresh := by simpa [ofFd] using hfresh

/-- A number is given out, or none is. -/
theorem ensures_open (hcard : held.card + 1 ≤ limit) {Post : Option ℕ → Table → Prop}
    (h : ∀ fd after, Adds (ofFd fd none) held after → Post fd after) :
    Ensures Ok share limit held create Post :=
  ensures_create hcard (h none held (.refl held)) fun fd hfresh ↦ h (some fd) _ (adds_insert hfresh)

/-- What was opened last is closed. -/
theorem Adds.close {fd port : Option ℕ} (h : Adds (ofFd fd port ++ mine) held after)
    {Post : Unit → Table → Prop} (hpost : ∀ next, Adds mine held next → Post () next) :
    Ensures Ok share limit after (close fd) Post := by
  cases fd with
  | none => exact ensures_close (fun _ ↦ hpost after h) nofun
  | some n =>
    refine ensures_close nofun ?_
    rintro n' ⟨⟩
    exact ⟨{ fd := n, port := port }, (h.mem _).mpr (Or.inl List.mem_cons_self), rfl,
      hpost _ h.erase⟩

/-- The port is bound, or it is not. -/
theorem Adds.bind {fd : Option ℕ} {port : ℕ} (h : Adds (ofFd fd none ++ mine) held after)
    {Post : Bool → Table → Prop} (hfalse : Post false after)
    (htrue : ∀ next, fd.isSome → Adds (ofFd fd (some port) ++ mine) held next → Post true next) :
    Ensures Ok share limit after (bindPort fd port) Post := by
  cases fd with
  | none => exact ensures_bindPort nofun hfalse nofun
  | some n =>
    refine ensures_bindPort ?_ hfalse ?_
    · rintro n' ⟨⟩
      exact ⟨{ fd := n }, (h.mem _).mpr (Or.inl List.mem_cons_self), rfl⟩
    · rintro n' ⟨⟩ _
      exact htrue _ rfl h.insert

end Adds

/-! ## Creating a session -/

/-- What the destructor of `satipRTP` closes, in its order. -/
def RtpSockets.descriptors (rtp : RtpSockets) : List Descriptor :=
  ofFd rtp.rtcpSocket (some rtp.rtcpPort.toNat) ++ ofFd rtp.rtpSocket (some rtp.rtpPort.toNat)

/-- The two ends of a pipe. -/
def ofPipe (pipe : Option (ℕ × ℕ)) : List Descriptor :=
  ofFd (pipe.map Prod.fst) none ++ ofFd (pipe.map Prod.snd) none

/-- What a session has open, in the order in which it is closed. -/
def SatipSession.descriptors (session : SatipSession) : List Descriptor :=
  session.rtp.descriptors ++ (ofFd session.vtunerFd none ++ ofPipe session.wakeupPipe)

/-- Two sockets, bound to a port and to the next one. -/
structure RtpSockets.Bound (rtp : RtpSockets) : Prop where
  lower : 45000 ≤ rtp.rtpPort
  upper : rtp.rtpPort < 46999
  next : rtp.rtcpPort = rtp.rtpPort + 1
  rtpSocket : rtp.rtpSocket.isSome
  rtcpSocket : rtp.rtcpSocket.isSome

/-- What `openRTP` promises. -/
def Opened (held : Table) (rtp : Option RtpSockets) (after : Table) : Prop :=
  (∀ sockets ∈ rtp, sockets.Bound) ∧ Adds (rtp.getD {}).descriptors held after

theorem ensures_openRTP (random : ℕ → ℕ) (attempts : ℕ) (hcard : held.card + 2 ≤ limit) :
    Ensures Ok share limit held (openRTP random attempts) (Opened held) := by
  induction attempts with
  | zero => exact ensures_pure ⟨nofun, .refl held⟩
  | succ attempts ih =>
    -- whichever of the sockets could not be bound, both are closed
    have hretry {rtp rtcp port port' : Option ℕ} {after : Table}
        (h : Adds (ofFd rtp port ++ ofFd rtcp port') held after) :
        Ensures Ok share limit after
          (close rtp >>= fun _ ↦ close rtcp >>= fun _ ↦ openRTP random attempts)
          (Opened held) := by
      apply ensures_bind
      refine h.close fun mid hmid ↦ ensures_bind ?_
      rw [← List.append_nil (ofFd rtcp port')] at hmid
      refine hmid.close fun last hlast ↦ ?_
      rwa [hlast.eq]
    apply ensures_bind
    refine ensures_open (by omega) fun rtp first hfirst ↦ ensures_bind ?_
    have hfirst_card : first.card + 1 ≤ limit := by
      have hle := hfirst.card_le
      have hlength : (ofFd rtp none).length ≤ 1 := by cases rtp <;> simp [ofFd]
      omega
    refine ensures_open hfirst_card fun rtcp second hsecond ↦ ensures_bind ?_
    have hboth : Adds (ofFd rtp none ++ ofFd rtcp none) held second :=
      (hfirst.trans hsecond).perm List.perm_append_comm
    refine hboth.bind (hretry hboth) fun third hrtp hthird ↦ ensures_bind ?_
    have hswap := hthird.perm List.perm_append_comm
    refine hswap.bind (hretry hthird) fun fourth hrtcp hfourth ↦ ensures_pure ?_
    refine ⟨?_, ?_⟩
    · rintro sockets ⟨⟩
      refine ⟨?_, ?_, rfl, hrtp, hrtcp⟩
      · change (45000 : ℤ) ≤ ((45000 + random attempts % 1999 : ℕ) : ℤ)
        omega
      · change ((45000 + random attempts % 1999 : ℕ) : ℤ) < 46999
        omega
    · exact hfourth

/-- In TCP data mode there are no sockets, otherwise they are bound. -/
def RtpSockets.Ready (tcpData : Bool) (rtp : RtpSockets) : Prop :=
  if tcpData then rtp = {} else rtp.Bound

theorem ensures_satipRTP (tcpData : Bool) (random : ℕ → ℕ) (hcard : held.card + 2 ≤ limit) :
    Ensures Ok share limit held (satipRTP tcpData random) fun rtp after ↦
      (rtp.2 = true → rtp.1.Ready tcpData) ∧ Adds rtp.1.descriptors held after := by
  unfold satipRTP
  generalize 999 = attempts
  split_ifs with htcp
  · exact ensures_pure ⟨fun _ ↦ by simp [RtpSockets.Ready, htcp], .refl held⟩
  · apply ensures_bind
    refine (ensures_openRTP random attempts hcard).mono fun sockets after hopened ↦ ?_
    obtain ⟨hbound, hadds⟩ := hopened
    cases sockets with
    | none => exact ensures_pure ⟨nofun, hadds⟩
    | some sockets =>
      refine ensures_pure ⟨fun _ ↦ ?_, hadds⟩
      simpa [RtpSockets.Ready, htcp] using hbound sockets rfl

theorem ensures_allocateVtuner (nodes : ℕ) (hcard : held.card + 1 ≤ limit) :
    Ensures Ok share limit held (allocateVtuner nodes) fun fd after ↦
      Adds (ofFd fd none) held after := by
  induction nodes with
  | zero => exact ensures_pure (.refl held)
  | succ nodes ih =>
    apply ensures_bind
    refine ensures_open hcard fun fd after hadds ↦ ?_
    cases fd with
    | none =>
      rw [hadds.eq]
      exact ih
    | some fd => exact ensures_pure hadds

/-- The requests open and close nothing. -/
theorem ensures_ioctl (n : ℤ) : Ensures Ok share limit held (ioctl n) fun _ after ↦ after = held :=
  ensures_bind (ensures_ask fun _ ↦ ensures_bind (ensures_ask fun _ ↦ ensures_pure rfl))

theorem ensures_setName (extended : Bool) :
    Ensures Ok share limit held (Vtuner.setName ioctl extended) fun _ after ↦ after = held := by
  apply ensures_bind
  refine (ensures_ioctl _).mono fun result after hafter ↦ ?_
  subst hafter
  split_ifs
  · apply ensures_bind
    exact (ensures_ioctl _).mono fun again last hlast ↦ ensures_pure hlast
  · exact ensures_pure rfl

theorem ensures_control (extended : Bool) :
    Ensures Ok share limit held (Vtuner.control ioctl extended) fun _ after ↦ after = held := by
  apply ensures_bind
  refine (ensures_setName extended).mono fun named after hafter ↦ ?_
  subst hafter
  split_ifs
  · exact ensures_pure rfl
  apply ensures_bind
  refine (ensures_ioctl _).mono fun typed after hafter ↦ ?_
  subst hafter
  split_ifs
  · exact ensures_pure rfl
  apply ensures_bind
  refine (ensures_ioctl _).mono fun informed after hafter ↦ ?_
  subst hafter
  split_ifs
  · exact ensures_pure rfl
  apply ensures_bind
  refine (ensures_ioctl _).mono fun _ after hafter ↦ ensures_bind ?_
  subst hafter
  exact (ensures_ioctl _).mono fun _ last hlast ↦ ensures_pure hlast

/-- A node is kept open unless it is no tuner of the kind. -/
theorem ensures_openVtuner (nodes : ℕ) (extended : Bool) (feType : ℤ)
    (hcard : held.card + 1 ≤ limit) :
    Ensures Ok share limit held (openVtuner nodes extended feType) fun fd after ↦
      Adds (ofFd fd none) held after := by
  apply ensures_bind
  refine (ensures_allocateVtuner nodes hcard).mono fun fd after hadds ↦ ?_
  cases fd with
  | none => exact ensures_pure hadds
  | some fd =>
    have hclose : Ensures Ok share limit after
        (close (some fd) >>= fun _ ↦ (pure none : Program (Option ℕ))) fun fd after ↦
          Adds (ofFd fd none) held after := by
      apply ensures_bind
      rw [← List.append_nil (ofFd (some fd) none)] at hadds
      exact hadds.close fun next hnext ↦ ensures_pure hnext
    dsimp only
    split_ifs
    · apply ensures_bind
      refine (ensures_control extended).mono fun offset last hlast ↦ ?_
      rw [hlast]
      split_ifs
      · exact ensures_pure hadds
      · exact hclose
    · exact hclose

/-- A session that was created with these arguments. -/
structure SatipSession.Ready (args : SessionArgs) (session : SatipSession) : Prop where
  created : session.args = { args with rtpPort := session.rtp.rtpPort }
  vtuner : session.vtunerFd.isSome
  rtp : session.rtp.Ready args.settings.tcpdata

theorem length_ofFd (fd port : Option ℕ) : (ofFd fd port).length ≤ 1 := by
  cases fd <;> simp [ofFd]

theorem length_ofPipe (pipe : Option (ℕ × ℕ)) : (ofPipe pipe).length ≤ 2 := by
  have hread := length_ofFd (pipe.map Prod.fst) none
  have hwrite := length_ofFd (pipe.map Prod.snd) none
  rw [ofPipe, List.length_append]
  omega

theorem SatipSession.length_descriptors (session : SatipSession) :
    session.descriptors.length ≤ 5 := by
  have hrtcp := length_ofFd session.rtp.rtcpSocket (some session.rtp.rtcpPort.toNat)
  have hrtp := length_ofFd session.rtp.rtpSocket (some session.rtp.rtpPort.toNat)
  have hvtuner := length_ofFd session.vtunerFd none
  have hpipe := length_ofPipe session.wakeupPipe
  simp only [descriptors, RtpSockets.descriptors, List.length_append]
  omega

theorem ensures_createPipe (hcard : held.card + 2 ≤ limit) :
    Ensures Ok share limit held createPair fun pipe after ↦ Adds (ofPipe pipe) held after := by
  refine ensures_createPair hcard (.refl held) fun fd fd' hne hfresh hfresh' ↦ ?_
  have hsecond : Adds (ofFd (some fd') none) held (insert { fd := fd' } held) := adds_insert hfresh'
  apply hsecond.trans
  apply adds_insert
  intro d hd
  rcases Finset.mem_insert.mp hd with rfl | hd
  · exact hne.symm
  · exact hfresh d hd

theorem ensures_satipSession (args : SessionArgs) (c : Circumstances)
    (hcard : held.card + 5 ≤ limit) :
    Ensures Ok share limit held (satipSession args c) fun created after ↦
      (created.2 = true → created.1.Ready args) ∧ Adds created.1.descriptors held after := by
  apply ensures_bind
  refine (ensures_createPipe (by omega)).mono fun pipe first hpipe ↦ ensures_bind ?_
  have hfirst := hpipe.card_le
  have hlength := length_ofPipe pipe
  refine (ensures_openVtuner _ _ _ (by omega)).mono fun fd second hvtuner ↦ ensures_bind ?_
  have hsecond := hvtuner.card_le
  have hlength' := length_ofFd fd none
  refine (ensures_satipRTP _ _ (by omega)).mono fun rtp third hrtp ↦ ensures_pure ⟨?_, ?_⟩
  · intro hok
    rw [Bool.and_eq_true] at hok
    exact ⟨rfl, hok.1, hrtp.1 hok.2⟩
  · exact (hpipe.trans hvtuner).trans hrtp.2

/-! ## Destroying a session -/

/-- Of these descriptors none is left, but for the number 0. -/
structure Released (mine : List Descriptor) (held after : Table) : Prop where
  sub : after ⊆ held
  keeps : ∀ d ∈ held, d ∉ mine → d ∈ after
  zero : ∀ d ∈ after, d ∈ mine → d.fd = 0

section Released

variable {mine more : List Descriptor} {after next : Table} {fd port : Option ℕ}

theorem Released.refl (h : ∀ d ∈ mine, d ∈ held → d.fd = 0) : Released mine held held where
  sub := subset_rfl
  keeps _ hd _ := hd
  zero d hd hmine := h d hmine hd

theorem Released.trans (h : Released mine held after) (hmore : Released more after next) :
    Released (mine ++ more) held next where
  sub := hmore.sub.trans h.sub
  keeps d hd hnot := by
    rw [List.mem_append, not_or] at hnot
    exact hmore.keeps d (h.keeps d hd hnot.1) hnot.2
  zero d hd hboth := by
    rcases List.mem_append.mp hboth with hmine | hmine
    · exact h.zero d (hmore.sub hd) hmine
    · exact hmore.zero d hd hmine

theorem ensures_close_released (hmem : ∀ d ∈ ofFd fd port, d ∈ held) :
    Ensures Ok share limit held (close fd) fun _ after ↦ Released (ofFd fd port) held after := by
  cases fd with
  | none => exact ensures_close (fun _ ↦ .refl nofun) nofun
  | some n =>
    refine ensures_close nofun ?_
    rintro n' ⟨⟩
    have hd : { fd := n, port := port } ∈ held := hmem _ List.mem_cons_self
    refine ⟨_, hd, rfl, Finset.erase_subset _ held, fun d hd hnot ↦ ?_, fun d hd hmine ↦ ?_⟩
    · exact Finset.mem_erase.mpr ⟨fun heq ↦ hnot (List.mem_singleton.mpr heq), hd⟩
    · exact absurd (List.mem_singleton.mp hmine) (Finset.ne_of_mem_erase hd)

theorem ensures_closeOpen (hmem : ∀ d ∈ ofFd fd port, d ∈ held) :
    Ensures Ok share limit held (closeOpen fd) fun _ after ↦
      Released (ofFd fd port) held after := by
  unfold closeOpen
  split_ifs with hnone
  · rw [hnone]
    exact ensures_pure (.refl nofun)
  · exact ensures_close_released hmem

theorem ensures_closeSocket (hmem : ∀ d ∈ ofFd fd port, d ∈ held) :
    Ensures Ok share limit held (closeSocket fd) fun _ after ↦
      Released (ofFd fd port) held after := by
  unfold closeSocket
  split_ifs with hzero
  · rw [hzero]
    refine ensures_pure (.refl fun d hd _ ↦ ?_)
    rw [List.mem_singleton.mp hd]
  · exact ensures_close_released hmem

/-- Some descriptors are closed, then the others. -/
theorem ensures_closeBoth {first rest : Program Unit} (hmem : ∀ d ∈ mine ++ more, d ∈ held)
    (hapart : ((mine ++ more).map Descriptor.fd).Nodup)
    (hfirst : (∀ d ∈ mine, d ∈ held) →
      Ensures Ok share limit held first fun _ after ↦ Released mine held after)
    (hrest : ∀ after, (∀ d ∈ more, d ∈ after) → (more.map Descriptor.fd).Nodup →
      Ensures Ok share limit after rest fun _ next ↦ Released more after next) :
    Ensures Ok share limit held (first >>= fun _ ↦ rest) fun _ after ↦
      Released (mine ++ more) held after := by
  rw [List.map_append, List.nodup_append] at hapart
  apply ensures_bind
  refine (hfirst fun d hd ↦ hmem d (List.mem_append_left more hd)).mono fun _ after hafter ↦ ?_
  refine (hrest after (fun d hd ↦ ?_) hapart.2.1).mono fun _ next hnext ↦ hafter.trans hnext
  apply hafter.keeps d (hmem d (List.mem_append_right mine hd))
  intro hmine
  exact hapart.2.2 _ (List.mem_map_of_mem hmine) _ (List.mem_map_of_mem hd) rfl

end Released

theorem ensures_destroy (session : SatipSession) (hmem : ∀ d ∈ session.descriptors, d ∈ held)
    (hapart : (session.descriptors.map Descriptor.fd).Nodup) :
    Ensures Ok share limit held (destroy session) fun _ after ↦
      Released session.descriptors held after := by
  have hdescriptors : session.descriptors =
      ofFd session.rtp.rtcpSocket (some session.rtp.rtcpPort.toNat) ++
        (ofFd session.rtp.rtpSocket (some session.rtp.rtpPort.toNat) ++
          (ofFd session.vtunerFd none ++ ofPipe session.wakeupPipe)) := List.append_assoc _ _ _
  rw [hdescriptors] at hmem hapart ⊢
  refine ensures_closeBoth hmem hapart ensures_closeSocket fun after hmem hapart ↦ ?_
  refine ensures_closeBoth hmem hapart ensures_closeSocket fun after hmem hapart ↦ ?_
  refine ensures_closeBoth hmem hapart ensures_closeOpen fun after hmem hapart ↦ ?_
  exact ensures_closeBoth hmem hapart ensures_closeOpen fun after hmem _ ↦ ensures_closeOpen hmem

/-! ## The manager -/

/-- The sessions that were created, of the tuners that are available, in the order of their
indices. -/
inductive Created (circumstances : ℤ → Circumstances) :
    List (ℤ × VtunerOpt) → List SatipSession → Prop where
  | nil : Created circumstances [] []
  | skip (entry : ℤ × VtunerOpt) {data : List (ℤ × VtunerOpt)} {sessions : List SatipSession}
    (hrest : Created circumstances data sessions) : Created circumstances (entry :: data) sessions
  | create (index : ℤ) (opt : VtunerOpt) (session : SatipSession)
    (havailable : opt.isAvailable = true)
    (hready : session.Ready (sessionArgs opt (circumstances index)))
    {data : List (ℤ × VtunerOpt)} {sessions : List SatipSession}
    (hrest : Created circumstances data sessions) :
    Created circumstances ((index, opt) :: data) (session :: sessions)

/-- What the sessions have open, and nothing else but the number 0. -/
structure Holds (sessions : List SatipSession) (held : Table) : Prop where
  mem : ∀ d ∈ sessions.flatMap SatipSession.descriptors, d ∈ held
  apart : ((sessions.flatMap SatipSession.descriptors).map Descriptor.fd).Nodup
  only : ∀ d ∈ held, d.fd = 0 ∨ d ∈ sessions.flatMap SatipSession.descriptors

/-- The number of sessions that are to be created. -/
def available (data : List (ℤ × VtunerOpt)) : ℕ := data.countP fun entry ↦ entry.2.isAvailable

/-- What is noted is true. -/
def Truthful (circumstances : ℤ → Circumstances) (data : List (ℤ × VtunerOpt)) :
    Note → Table → Prop
  | .waiting sessions, held => Created circumstances data sessions ∧ Holds sessions held
  | .ended, held => ∀ d ∈ held, d.fd = 0

section Manager

variable {circumstances : ℤ → Circumstances} {data : List (ℤ × VtunerOpt)}
  {session : SatipSession} {sessions : List SatipSession} {after : Table}

theorem Holds.create (h : Holds sessions held) (hadds : Adds session.descriptors held after) :
    Holds (sessions ++ [session]) after := by
  have hall : (sessions ++ [session]).flatMap SatipSession.descriptors =
      sessions.flatMap SatipSession.descriptors ++ session.descriptors := by simp
  refine ⟨?_, ?_, ?_⟩
  · rw [hall]
    intro d hd
    rw [hadds.mem d]
    exact (List.mem_append.mp hd).symm.imp_right (h.mem d)
  · rw [hall, List.map_append, List.nodup_append]
    refine ⟨h.apart, hadds.apart, ?_⟩
    rintro _ hfd _ hfd' rfl
    obtain ⟨d, hd, hsame⟩ := List.mem_map.mp hfd
    obtain ⟨e, he, rfl⟩ := List.mem_map.mp hfd'
    exact hadds.fresh e he d (h.mem d hd) hsame
  · rw [hall]
    intro d hd
    rw [List.mem_append]
    rcases (hadds.mem d).mp hd with hmine | hheld
    · exact Or.inr (Or.inr hmine)
    · exact (h.only d hheld).imp_right Or.inl

/-- A session that failed leaves nothing behind. -/
theorem Holds.fail {last : Table} (h : Holds sessions held)
    (hadds : Adds session.descriptors held after)
    (hleft : Released session.descriptors after last) : Holds sessions last where
  mem d hd := by
    have hheld : d ∈ held := h.mem d hd
    apply hleft.keeps d ((hadds.mem d).mpr (Or.inr hheld))
    exact fun hmine ↦ hadds.fresh d hmine d hheld rfl
  apart := h.apart
  only d hd := by
    rcases (hadds.mem d).mp (hleft.sub hd) with hmine | hheld
    · exact Or.inl (hleft.zero d hd hmine)
    · exact h.only d hheld

theorem Holds.destroy (h : Holds (session :: sessions) held)
    (hleft : Released session.descriptors held after) : Holds sessions after := by
  obtain ⟨_, hrest, hnodup⟩ := List.nodup_append.mp (List.map_append ▸ h.apart)
  refine ⟨fun d hd ↦ ?_, hrest, fun d hd ↦ ?_⟩
  · apply hleft.keeps d (h.mem d (List.mem_append_right _ hd))
    exact fun hmine ↦ hnodup _ (List.mem_map_of_mem hmine) _ (List.mem_map_of_mem hd) rfl
  · rcases h.only d (hleft.sub hd) with hzero | hmem
    · exact Or.inl hzero
    · rcases List.mem_append.mp hmem with hmine | hmem
      · exact Or.inl (hleft.zero d hd hmine)
      · exact Or.inr hmem

/-- The thread of a session that was just created. -/
theorem safe_start (args : SessionArgs) (ops : List (Op × ℕ)) :
    Safe Ok 1 1 ∅ (sessionThread ops args.start) := by
  have hfd : args.start.fd = none := by
    change (RTSP.resetConnect args.now false _).fd = none
    exact RTSP.fd_resetConnect false
  have hsafe : Safe Ok 1 1 (fdTable args.start.fd) (sessionThread ops args.start) :=
    safe_sessionThread ops ⟨args, Runs.Reachable.refl RTSP.step args.start⟩
  rwa [hfd] at hsafe

theorem ensures_satipSessionCreate (opt : VtunerOpt) (c : Circumstances)
    (hcard : held.card + 5 ≤ limit) (hholds : Holds sessions held) :
    Ensures Ok 1 limit held (satipSessionCreate opt c) fun created after ↦
      (∀ session ∈ created, session.Ready (sessionArgs opt c)) ∧
        Holds (sessions ++ created.toList) after ∧ after.card ≤ held.card + 5 := by
  apply ensures_bind
  refine (ensures_satipSession _ c hcard).mono fun created after hcreated ↦ ?_
  obtain ⟨hready, hadds⟩ := hcreated
  have hmore : after.card ≤ held.card + 5 :=
    hadds.card_le.trans (Nat.add_le_add_left created.1.length_descriptors _)
  split_ifs with hok
  · apply ensures_bind
    refine ensures_fork (safe_start created.1.args c.ops) (ensures_pure ⟨?_, ?_, hmore⟩)
    · rintro session ⟨⟩
      exact hready hok
    · exact hholds.create hadds
  · apply ensures_bind
    have hmem : ∀ d ∈ created.1.descriptors, d ∈ after := fun d hd ↦ (hadds.mem d).mpr (Or.inl hd)
    have hdestroy : Ensures Ok 1 limit after (destroy created.1) fun _ last ↦
        Released created.1.descriptors after last := ensures_destroy created.1 hmem hadds.apart
    refine hdestroy.mono fun _ last hleft ↦ ensures_pure ⟨?_, ?_, ?_⟩
    · simp
    · rw [Option.toList_none, List.append_nil]
      exact hholds.fail hadds hleft
    · exact (Finset.card_le_card hleft.sub).trans hmore

theorem ensures_satipStart (hcard : held.card + 5 * available data ≤ limit)
    (hholds : Holds sessions held) :
    Ensures Ok 1 limit held (satipStart circumstances data) fun created after ↦
      Created circumstances data created ∧ Holds (sessions ++ created) after := by
  induction data generalizing sessions held with
  | nil =>
    refine ensures_pure ⟨.nil, ?_⟩
    rwa [List.append_nil]
  | cons entry data ih =>
    obtain ⟨index, opt⟩ := entry
    unfold satipStart
    split_ifs with havailable
    · have hcount : available ((index, opt) :: data) = available data + 1 :=
        List.countP_cons_of_pos havailable
      rw [hcount] at hcard
      apply ensures_bind
      refine (ensures_satipSessionCreate opt _ (by omega) hholds).mono fun created mid hcreated ↦ ?_
      obtain ⟨hready, hmid, hmore⟩ := hcreated
      apply ensures_bind
      refine (ih (by omega) hmid).mono fun rest after hrest ↦ ensures_pure ⟨?_, ?_⟩
      · cases created with
        | none => exact .skip (index, opt) hrest.1
        | some session => exact .create index opt session havailable (hready session rfl) hrest.1
      · rw [← List.append_assoc]
        exact hrest.2
    · have hcount : available ((index, opt) :: data) = available data :=
        List.countP_cons_of_neg havailable
      rw [hcount] at hcard
      exact (ih hcard hholds).mono fun created after hafter ↦
        ⟨.skip (index, opt) hafter.1, hafter.2⟩

theorem ensures_destroyAll (h : Holds sessions held) :
    Ensures Ok share limit held (destroyAll sessions) fun _ after ↦ ∀ d ∈ after, d.fd = 0 := by
  induction sessions generalizing held with
  | nil => exact ensures_pure fun d hd ↦ (h.only d hd).resolve_right nofun
  | cons session sessions ih =>
    apply ensures_bind
    have hmem : ∀ d ∈ session.descriptors, d ∈ held := fun d hd ↦
      h.mem d (List.mem_append_left _ hd)
    have hapart := (List.nodup_append.mp (List.map_append ▸ h.apart)).1
    exact (ensures_destroy session hmem hapart).mono fun _ after hleft ↦ ih (h.destroy hleft)

theorem safe_main (circumstances : ℤ → Circumstances) (data : List (ℤ × VtunerOpt)) :
    Safe (Truthful circumstances data) 1 (5 * available data) ∅
      (main circumstances data fun _ ↦ .done) := by
  have hmain : Ensures (Truthful circumstances data) 1 (5 * available data) ∅
      (main circumstances data) fun _ _ ↦ True := by
    have hnone : Holds [] ∅ := ⟨by simp, by simp, by simp⟩
    unfold main
    split_ifs with hdata
    · exact ensures_note (by simp [Truthful]) trivial
    · apply ensures_bind
      refine (ensures_satipStart (by simp) hnone).mono fun sessions held hstarted ↦ ?_
      apply ensures_bind
      refine ensures_note hstarted (ensures_bind ?_)
      exact (ensures_destroyAll hstarted.2).mono fun _ after hafter ↦ ensures_note hafter trivial
  exact hmain _ fun _ _ _ ↦ trivial

/-! ## The process -/

variable {base : Table} {p : Descriptors.Process Note}

theorem invariant_of_reaches (hbase : Descriptors.Distinct base)
    (hreach : Descriptors.Reaches (start base circumstances data) p) :
    Descriptors.Invariant (Truthful circumstances data) 1 (5 * available data) base p :=
  (Descriptors.invariant_start hbase (safe_main circumstances data)).reaches hreach

/-- The ports of the sockets of a session. -/
def SatipSession.ports (session : SatipSession) : List ℕ :=
  session.descriptors.filterMap Descriptor.port

end Manager

/-- The standard streams. -/
def stdStreams : Table := {{ fd := 0 }, { fd := 1 }, { fd := 2 }}

/-- A file with one tuner. -/
def oneTuner : List (ℤ × VtunerOpt) :=
  [(0, { vtunerType := CString.ascii "satip_client", ipaddr := CString.ascii "h", feType := 0 })]

/-- There is one node of the device, of the interface that the client is built for. -/
def oneNode : ℤ → Circumstances := fun _ ↦
  { nodes := 1, extended := true, random := fun _ ↦ 0, block := fun _ ↦ 0, now := {}, ops := [] }

theorem distinct_stdStreams : Descriptors.Distinct stdStreams := ⟨by decide, by decide⟩

/-- Every call succeeds. -/
theorem reaches_waiting : ∃ p sessions t,
    Descriptors.Reaches (start stdStreams oneNode oneTuner) p ∧
      p.main = .note (.waiting sessions) t ∧ sessions.length = 1 := by
  refine ⟨?_, ?_, ?_, ?_, ?_, ?_⟩
  rotate_left 3
  · refine .head (.main (.pair _ 3 4 (by decide) (by decide) (by decide))) ?_
    refine .head (.main (.created _ 5 (by decide))) ?_
    iterate 10 refine .head (.main (.answered _ true)) ?_
    refine .head (.main (.created _ 6 (by decide))) ?_
    refine .head (.main (.created _ 7 (by decide))) ?_
    refine .head (.main (.bound 6 45000 _ (by decide) (by decide))) ?_
    refine .head (.main (.bound 7 45001 _ (by decide) (by decide))) ?_
    refine .head (.main (.forked _ _)) ?_
    exact .refl
  · rfl
  · rfl

end SatipClient.Manager
