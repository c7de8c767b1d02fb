import SatipClient.Foundation.Descriptors
import SatipClient.Options.State
import SatipClient.RTSP.Session
import SatipClient.Vtuner.Interface

/-!
# Creating the sessions

`main` with `sessionManager`: a session is created for each tuner of the configuration file that is
available, its thread is started, and when the process ends the sessions are destroyed.  What is
modelled is what opens and closes descriptors, and what the sessions are created with.  The results
of the calls are up to the environment, and `Circumstances` has what else it decides.
-/

namespace SatipClient.Manager

open CString (ascii ofBytes)
open Descriptors (Thread Table create createPair bindPort close ask fork note)
open Options (VtunerOpt)
open RTSP (SatipRTSP SessionArgs Op Event)
open Vtuner (Outcome)

/-- The sockets of `satipRTP`. -/
structure RtpSockets where
  rtpPort : ℤ := -1
  rtpSocket : Option ℕ := none
  rtcpPort : ℤ := -1
  rtcpSocket : Option ℕ := none

/-- What `satipSession` owns. -/
structure SatipSession where
  wakeupPipe : Option (ℕ × ℕ)
  vtunerFd : Option ℕ
  rtp : RtpSockets
  /-- what `satipRTSP` is created with -/
  args : SessionArgs

/-- What the program notes. -/
inductive Note where
  /-- `main` waits for a signal, with these sessions -/
  | waiting (sessions : List SatipSession)
  /-- all sessions are destroyed -/
  | ended

abbrev Program (α : Type) := Descriptors.Program Note α

/-- What the environment decides about the session of a tuner. -/
structure Circumstances where
  /-- the number of nodes of the vtuner device -/
  nodes : ℕ
  /-- the client is built for the extended interface of the device -/
  extended : Bool
  /-- the results of `random`, by the number of attempts that are left -/
  random : ℕ → ℕ
  /-- the contents of the receive buffer as it was allocated -/
  block : Memory.Block
  now : Timespec
  /-- the steps of the session, with the number of addresses that `getaddrinfo` would find -/
  ops : List (Op × ℕ)

/-! ## Opening -/

/-- The loop in `openRTP`, where so many attempts are left. -/
def openRTP (random : ℕ → ℕ) : ℕ → Program (Option RtpSockets)
  | 0 => pure none
  | attempts + 1 => do
    let rtpPort := 45000 + random attempts % 1999
    let rtpSock ← create
    let rtcpSock ← create
    let bound ← bindPort rtpSock rtpPort
    if bound then
      let bound ← bindPort rtcpSock (rtpPort + 1)
      if bound then
        pure (some
          { rtpPort := rtpPort
            rtpSocket := rtpSock
            rtcpPort := rtpPort + 1
            rtcpSocket := rtcpSock })
      else
        close rtpSock
        close rtcpSock
        openRTP random attempts
    else
      close rtpSock
      close rtcpSock
      openRTP random attempts

/-- The constructor of `satipRTP`, with `m_openok`. -/
def satipRTP (tcpData : Bool) (random : ℕ → ℕ) : Program (RtpSockets × Bool) :=
  if tcpData then pure ({}, true)
  else do
    let sockets ← openRTP random 999
    match sockets with
    | some sockets => pure (sockets, true)
    | none => pure ({}, false)

/-- `AllocateVtuner`, where so many nodes are left to try. -/
def allocateVtuner : ℕ → Program (Option ℕ)
  | 0 => pure none
  | nodes + 1 => do
    let fd ← create
    match fd with
    | some fd => pure (some fd)
    | none => allocateVtuner nodes

/-- `ioctl`, whatever the driver answers. -/
def ioctl (_ : ℤ) : Program Outcome := do
  let known ← ask
  let done ← ask
  pure (if known then (if done then .ok else .failed) else .unknown)

/-- `openVtuner`: `m_fd`, unless it fails. -/
def openVtuner (nodes : ℕ) (extended : Bool) (feType : ℤ) : Program (Option ℕ) := do
  let fd ← allocateVtuner nodes
  match fd with
  | none => pure none
  | some fd =>
    if feType = 0 ∨ feType = 1 ∨ feType = 2 then
      let offset ← Vtuner.control ioctl extended
      if offset.isSome then pure (some fd)
      else
        close (some fd)
        pure none
    else
      close (some fd)
      pure none

/-- The constructor of `satipSession`, with `initok`. -/
def satipSession (args : SessionArgs) (c : Circumstances) : Program (SatipSession × Bool) := do
  let wakeupPipe ← createPair
  let vtunerFd ← openVtuner c.nodes c.extended args.feType
  let rtp ← satipRTP args.settings.tcpdata c.random
  pure
    ({ wakeupPipe := wakeupPipe
       vtunerFd := vtunerFd
       rtp := rtp.1
       args := { args with rtpPort := rtp.1.rtpPort } },
      vtunerFd.isSome && rtp.2)

/-! ## Closing -/

/-- A descriptor that may be -1 is closed if it is not. -/
def closeOpen (fd : Option ℕ) : Program Unit := if fd = none then pure () else close fd

/-- The destructor of `satipRTP` does not close the number 0. -/
def closeSocket (fd : Option ℕ) : Program Unit := if fd = some 0 then pure () else close fd

/-- The destructor of `satipSession`, with those of what it owns. -/
def destroy (session : SatipSession) : Program Unit := do
  closeSocket session.rtp.rtcpSocket
  closeSocket session.rtp.rtpSocket
  closeOpen session.vtunerFd
  closeOpen (session.wakeupPipe.map Prod.fst)
  closeOpen (session.wakeupPipe.map Prod.snd)

/-! ## The thread of a session -/

/-- The loop in `connectToServer` over the addresses that are left. -/
def connectToServer : ℕ → Program (Option ℕ)
  | 0 => pure none
  | addresses + 1 => do
    let fd ← create
    match fd with
    | none => connectToServer addresses
    | some fd =>
      let nonblocking ← ask
      if nonblocking then
        let connecting ← ask
        if connecting then pure (some fd)
        else
          close (some fd)
          connectToServer addresses
      else
        close (some fd)
        connectToServer addresses

/-- A connection is made when `handleRTSPStatus` tries to. -/
def prepare (addresses : ℕ) (s : SatipRTSP) : Op → Program Op
  | .handleRTSPStatus now connect sent =>
    if s.rtspStatus = .configWaiting ∧ s.config.status = .changed then do
      let connect ← connectToServer addresses
      pure (.handleRTSPStatus now connect sent)
    else pure (.handleRTSPStatus now connect sent)
  | op => pure op

/-- `resetConnect` closes the connection. -/
def closeDropped : List Event → Option ℕ → Program Unit
  | [], _ => pure ()
  | event :: events, fd =>
    match event with
    | .disconnected => do
      closeOpen fd
      closeDropped events none
    | _ => closeDropped events fd

/-- Behind a step, what it dropped is closed and the thread goes on. -/
def afterStep (s : SatipRTSP) (rest : SatipRTSP → Thread Note) : Option SatipRTSP → Thread Note
  | none => .done
  | some next => closeDropped (next.trace.drop s.trace.length) s.fd fun _ ↦ rest next

/-- The thread of a session. -/
def sessionThread : List (Op × ℕ) → SatipRTSP → Thread Note
  | [], _ => .done
  | (op, addresses) :: ops, s =>
    prepare addresses s op fun op ↦ afterStep s (sessionThread ops) (RTSP.step s op)

/-! ## The manager -/

/-- The characters of a C string. -/
def text (bytes : List UInt8) : String :=
  String.ofList ((ofBytes bytes).map fun byte ↦ Char.ofNat byte.toNat)

/-- What the session of a tuner is created with. -/
def sessionArgs (opt : VtunerOpt) (c : Circumstances) : SessionArgs where
  host := text opt.ipaddr
  port := if text opt.port = "" then "554" else text opt.port
  rtpPort := -1
  feType := opt.feType
  settings :=
    { feNumber := opt.feNumber
      tcpdata := opt.tcpdata
      forcePlts := opt.forcePlts
      caPids := opt.caPids
      caEmm := opt.caEmm
      caCaids := opt.caCaids.image Int.toNat }
  block := c.block
  now := c.now

/-- `satipSessionCreate` -/
def satipSessionCreate (opt : VtunerOpt) (c : Circumstances) : Program (Option SatipSession) := do
  let created ← satipSession (sessionArgs opt c) c
  if created.2 then
    fork (sessionThread c.ops created.1.args.start)
    pure (some created.1)
  else
    destroy created.1
    pure none

/-- The loop in `satipStart`, over the entries of the map in their order. -/
def satipStart (circumstances : ℤ → Circumstances) :
    List (ℤ × VtunerOpt) → Program (List SatipSession)
  | [] => pure []
  | (index, opt) :: data =>
    if opt.isAvailable then do
      let session ← satipSessionCreate opt (circumstances index)
      let sessions ← satipStart circumstances data
      pure (session.toList ++ sessions)
    else satipStart circumstances data

/-- The destructor of `sessionManager`. -/
def destroyAll : List SatipSession → Program Unit
  | [] => pure ()
  | session :: sessions => do
    destroy session
    destroyAll sessions

/-- `main`; without an entry, `satipStart` fails. -/
def main (circumstances : ℤ → Circumstances) (data : List (ℤ × VtunerOpt)) : Program Unit := do
  if data = [] then note .ended
  else
    let sessions ← satipStart circumstances data
    note (.waiting sessions)
    destroyAll sessions
    note .ended

/-- The process, when `main` is called with these descriptors open. -/
def start (base : Table) (circumstances : ℤ → Circumstances) (data : List (ℤ × VtunerOpt)) :
    Descriptors.Process Note where
  table := base
  main := main circumstances data fun _ ↦ .done

end SatipClient.Manager
