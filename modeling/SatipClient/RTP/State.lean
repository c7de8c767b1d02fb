import SatipClient.Foundation.CString
import SatipClient.Foundation.Memory

/-!
# The stream receivers

What `satipRTP` does with the packets that arrive as UDP datagrams, in `rtpDump`, or interleaved in
the RTSP connection, in `rtpTcpData`: stream data are written to the vtuner device and passed to
the PSI parser, and `rtcpData` takes the signal values out of RTCP reports.

The two receivers hand on pointers into larger buffers, so memory is a block that goes on behind
what was received; `rtcpData` also lists what it reads.  Where C leaves the result of the code
undefined, the signal values are `none`.
-/

namespace SatipClient.RTP

open CString (ascii ofBytes strstr scanInts)
open Memory (Block load store offset)

/-- The signal values. -/
structure Signal where
  hasLock : Bool := false
  signalStrength : ℤ := 0
  signalQuality : ℤ := 0
  deriving DecidableEq

/-- `unset` -/
def unset : Signal := {}

/-- The value of an `int` operation, which is undefined when it overflows. -/
def toInt (value : ℤ) : Option ℤ :=
  if -2 ^ 31 ≤ value ∧ value < 2 ^ 31 then some value else none

/-- `value >= 0 ? value * 65535 / range : 0` -/
def scale (value range : ℤ) : Option ℤ :=
  if 0 ≤ value then (toInt (value * 65535)).map (· / range) else some 0

/-- `parseRtcpAppPayload`.  A variable that `sscanf` does not set has no value, and there is nothing
to scan when no comma follows. -/
def parseRtcpAppPayload (buffer : List UInt8) : Option Signal :=
  match strstr (ascii ";tuner=") buffer with
  | none => some unset
  | some field => do
    let strp ← strstr (ascii ",") field
    let values := scanInts 3 strp
    let level ← values[0]?
    let signalStrength ← scale level 255
    let lock ← values[1]?
    if lock = 0 then some { signalStrength := signalStrength }
    else do
      let quality ← values[2]?
      let signalQuality ← scale quality 15
      some { hasLock := true, signalStrength := signalStrength, signalQuality := signalQuality }

/-- The conversion of an `int` to `u16`. -/
def toU16 (value : ℤ) : ℕ := (value % 2 ^ 16).toNat

/-- The value that `vtunerEvent` answers to `MSG_READ_SNR`; the product of two `u16` is an `int`. -/
def readSnr (signal : Signal) : Option ℕ :=
  (toInt (toU16 signal.signalStrength * toU16 signal.signalQuality)).map fun product ↦
    toU16 (product / 65535)

/-! ## RTCP reports -/

/-- An access to the bytes of a buffer. -/
structure Read where
  start : ℕ
  size : ℕ
  deriving DecidableEq

/-- `ntohl` of the word at `start` -/
def wordAt (buffer : Block) (start : ℕ) : ℕ :=
  (buffer start).toNat <<< 24 ||| (buffer (start + 1)).toNat <<< 16 |||
    (buffer (start + 2)).toNat <<< 8 ||| (buffer (start + 3)).toNat

/-- The variables of the loop in `rtcpData`. -/
structure RtcpLoop where
  done : ℕ := 0
  signal : Option Signal
  /-- what was read so far -/
  reads : List Read := []

/-- The case of an application packet at `start`; `malloc` succeeds. -/
def readApp (buffer : Block) (start : ℕ) (signal : Option Signal) : Option Signal × List Read :=
  let words : List Read := [⟨start + 8, 4⟩, ⟨start + 12, 4⟩]
  let stringLength := wordAt buffer (start + 12) &&& 0xffff
  if 0 < stringLength then
    (parseRtcpAppPayload (ofBytes (load (offset buffer (start + 16)) stringLength)),
      words ++ [⟨start + 16, stringLength⟩])
  else (signal, words)

/-- The body of the loop. -/
def rtcpRound (buffer : Block) (v : RtcpLoop) : RtcpLoop :=
  let val := wordAt buffer v.done
  let pt := (val &&& 0xff0000) >>> 16
  let length := val &&& 0xffff
  let app := if pt = 204 ∧ 1 < length then readApp buffer v.done v.signal else (v.signal, [])
  { done := v.done + (length + 1) * 4
    signal := app.1
    reads := v.reads ++ ⟨v.done, 4⟩ :: app.2 }

/-- The loop of `rtcpData`, which looks at the packets of a datagram of `size` bytes. -/
def rtcpLoop (buffer : Block) (size : ℕ) (v : RtcpLoop) : RtcpLoop :=
  if v.done < size then rtcpLoop buffer size (rtcpRound buffer v) else v
termination_by size - v.done
decreasing_by
  simp only [rtcpRound]
  omega

/-- `rtcpData` -/
def rtcpData (buffer : Block) (size : ℕ) (signal : Option Signal) : RtcpLoop :=
  rtcpLoop buffer size { signal := signal }

/-! ## Stream data -/

/-- A result of the system call `write`. -/
inductive WriteResult where
  | wrote (count : ℕ)
  /-- `EINTR` -/
  | interrupted
  | failed

/-- `Write`: the bytes that reach the device, where `write` has the given results.  What it returns
is only logged. -/
def write : List WriteResult → List UInt8 → List UInt8
  | .wrote count :: results, buffer =>
    if count = 0 then [] else buffer.take count ++ write results (buffer.drop count)
  | .interrupted :: results, buffer => write results buffer
  | _, _ => []

/-- The fields of `satipRTP` behind its sockets. -/
structure SatipRTP where
  /-- `m_psi` is set -/
  hasPsi : Bool
  signal : Option Signal := some {}
  /-- the bytes written to the vtuner device -/
  written : List UInt8 := []
  /-- the buffers passed to `processTS` -/
  processed : List (List UInt8) := []

/-- Stream data are written to the device and passed to the parser. -/
def deliver (results : List WriteResult) (bytes : List UInt8) (s : SatipRTP) : SatipRTP :=
  { s with
    written := s.written ++ write results bytes
    processed := if s.hasPsi then s.processed ++ [bytes] else s.processed }

/-- `BUFFER_SIZE`, room for seven packets behind an RTP header. -/
abbrev bufferSize : ℕ := 1328

/-- What one round of the loop in `rtpDump` meets. -/
structure DumpRound where
  /-- the datagram on the RTP socket -/
  rtp : Option (List UInt8) := none
  results : List WriteResult := []
  /-- the datagram on the RTCP socket -/
  rtcp : Option (List UInt8) := none

/-- The RTP half of a round, with what it leaves in `rx_data`. -/
def dumpRtp (round : DumpRound) (rxData : Block) (s : SatipRTP) : Block × SatipRTP :=
  match round.rtp with
  | none => (rxData, s)
  | some datagram =>
    let rxData := store rxData 0 (datagram.take bufferSize)
    let rxBytes := (datagram.take bufferSize).length
    if 12 < rxBytes ∧ rxData 12 = 0x47 then
      (rxData, deliver round.results (load (offset rxData 12) (rxBytes - 12)) s)
    else (rxData, s)

/-- The RTCP half of a round. -/
def dumpRtcp (round : DumpRound) (rxData : Block) (s : SatipRTP) : Block × SatipRTP :=
  match round.rtcp with
  | none => (rxData, s)
  | some datagram =>
    let rxData := store rxData 0 (datagram.take bufferSize)
    let rxBytes := (datagram.take bufferSize).length
    if 0 < rxBytes then
      (rxData, { s with signal := (rtcpData rxData rxBytes s.signal).signal })
    else (rxData, s)

/-- A round of the loop in `rtpDump`. -/
def dumpRound (state : Block × SatipRTP) (round : DumpRound) : Block × SatipRTP :=
  let (rxData, s) := dumpRtp round state.1 state.2
  dumpRtcp round rxData s

/-- `rtpDump`, over the rounds of its loop; `rx_data` starts with whatever the stack holds. -/
def rtpDump (rxData : Block) (rounds : List DumpRound) (s : SatipRTP) : SatipRTP :=
  (rounds.foldl dumpRound (rxData, s)).2

/-- An interleaved frame in the receive buffer of the RTSP client. -/
structure TcpFrame where
  data : Block
  size : ℕ
  results : List WriteResult := []

/-- `rtpTcpData` -/
def rtpTcpData (s : SatipRTP) (frame : TcpFrame) : SatipRTP :=
  if frame.size ≤ 4 + 12 then s
  else if frame.data 1 = 0 then
    deliver frame.results (load (offset frame.data (4 + 12)) (frame.size - 4 - 12)) s
  else if frame.data 1 = 1 then
    { s with signal := (rtcpData (offset frame.data 4) (frame.size - 4) s.signal).signal }
  else s

end SatipClient.RTP
