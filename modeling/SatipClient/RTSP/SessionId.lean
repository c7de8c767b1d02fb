import SatipClient.Foundation.CharArray
import SatipClient.Foundation.Lines
import SatipClient.RTSP.Frames

/-!
# Copying the session id

`handleResponseSetup` copies everything behind the start of the session id to an array of 1024
bytes, and cuts the id out of the copy.  Here these steps are taken byte by byte.  They do what the
model of the function says (`handleResponseSetupIn_eq`), and they stay within the array just when
less than 1024 bytes were received from there on (`sessionId_bounded`), whatever follows
the id in the response or behind it.
-/

namespace SatipClient.RTSP

open CString (ascii ofBytes strstr strchr isspace)
open CharArray (assign strcpy strcspn skipBack)

/-- `char session_id[1024]`, with whatever bytes it holds. -/
abbrev SessionIdArray := Vector UInt8 1024

/-- The session id that is cut out of the copy: up to `;` or the end of the line, without the
blanks at its end. -/
def cutSessionId (array value : List UInt8) : Option (List UInt8) := do
  let array ← strcpy array value
  let size ← strcspn [59, 10] array
  let size ← skipBack isspace array size
  let array ← assign array size 0
  some (ofBytes array)

/-- `handleResponseSetup`, with the accesses to `session_id`. -/
def handleResponseSetupIn (sessionId : SessionIdArray) (text : List UInt8) (s : SatipRTSP) :
    Option (Result × SatipRTSP) :=
  match sessionValue text with
  | none => some (.error, s)
  | some value =>
    (cutSessionId sessionId.toList value).map fun id ↦
      let s :=
        { s with
          rtspSessionId := id
          rtspTimeout := (numberBehind "timeout" 61 text).getD s.rtspTimeout }
      match numberBehind "com.ses.streamID" 58 text with
      | none => (.error, s)
      | some streamId => (.responseComplete, { s with rtspStreamId := streamId })

variable {text tail : List UInt8}

/-! ## Where the copy starts -/

/-- `tail` is the end of the text behind the blanks behind the first colon behind the first
`Session`. -/
def SessionTail (text tail : List UInt8) : Prop :=
  ∃ front name blanks, text = front ++ (ascii "Session" ++ name ++ 58 :: blanks ++ tail) ∧
    ¬ascii "Session" <:+: front ++ ascii "Sessio" ∧ 58 ∉ name ∧
    (∀ byte ∈ blanks, isspace byte = true) ∧ ∀ byte ∈ tail.head?, isspace byte = false

theorem sessionValue_eq_some_iff : sessionValue text = some tail ↔ SessionTail text tail := by
  simp only [sessionValue, Option.map_eq_some_iff,
    CString.strstr_bind_strchr_eq_some_iff (show ascii "Session" ≠ [] by decide)
      (show (58 : UInt8) ∉ ascii "Session" by decide)]
  constructor
  · rintro ⟨-, ⟨front, name, rest, rfl, hfirst, hname, rfl⟩, rfl⟩
    refine ⟨front, name, rest.takeWhile isspace, ?_, hfirst, hname, ?_, ?_⟩
    · rw [List.drop_one, List.tail_cons, List.append_assoc _ (58 :: _), List.cons_append,
        List.takeWhile_append_dropWhile]
    · exact fun byte hbyte ↦ List.mem_takeWhile_imp hbyte
    · intro byte hbyte
      have hstop := List.head?_dropWhile_not isspace rest
      rw [Option.mem_def, List.drop_one, List.tail_cons] at hbyte
      rwa [hbyte] at hstop
  · rintro ⟨front, name, blanks, rfl, hfirst, hname, hblanks, htail⟩
    refine ⟨58 :: (blanks ++ tail), ⟨front, name, blanks ++ tail, by simp, hfirst, hname, rfl⟩, ?_⟩
    rw [List.drop_one, List.tail_cons, List.dropWhile_append_of_pos hblanks]
    cases tail with
    | nil => rfl
    | cons byte tail => rw [List.dropWhile_cons_of_neg (by simpa using htail)]

/-! ## The accesses to the array -/

/-- The copy needs room for the terminating NUL, and cutting the id out of it nothing more. -/
theorem cutSessionId_eq (array : List UInt8) {value : List UInt8} (hvalue : 0 ∉ value) :
    cutSessionId array value =
      if value.length < array.length then some (trimSessionId value) else none := by
  rw [cutSessionId, CharArray.strcpy_eq]
  split
  case isFalse => rfl
  case isTrue hroom =>
    set rest := array.drop (value.length + 1)
    set id := value.takeWhile fun byte ↦ byte ∉ [59, 10] with hid
    obtain ⟨behind, hbehind⟩ : id <+: value := List.takeWhile_prefix _
    have hcopy : value ++ 0 :: rest = id ++ (behind ++ 0 :: rest) := by
      rw [← List.append_assoc, hbehind]
    have hcut : id.rdropWhile isspace <+: value ++ 0 :: rest := by
      rw [hcopy]
      exact (List.rdropWhile_prefix _ _).trans (List.prefix_append _ _)
    have hinside : (id.rdropWhile isspace).length < (value ++ 0 :: rest).length := by
      have hle : (id.rdropWhile isspace).length ≤ value.length :=
        ((List.rdropWhile_prefix _ _).trans ⟨behind, hbehind⟩).length_le
      rw [List.length_append, List.length_cons]
      omega
    have htrim : trimSessionId value = id.rdropWhile isspace := by
      rw [trimSessionId, hid]
      simp
    have hnul : 0 ∉ id.rdropWhile isspace := by
      intro hmem
      exact hvalue (((List.rdropWhile_prefix _ _).trans ⟨behind, hbehind⟩).subset hmem)
    have htake : (value ++ 0 :: rest).take (id.rdropWhile isspace).length =
        id.rdropWhile isspace := (List.prefix_iff_eq_take.mp hcut).symm
    simp only [Option.bind_eq_bind, Option.bind_some]
    rw [CharArray.strcspn_append _ hvalue, Option.bind_some, ← hid, hcopy,
      CharArray.skipBack_append, Option.bind_some, ← hcopy, CharArray.assign_of_lt hinside,
      Option.bind_some, CharArray.ofBytes_set hinside (by rw [htake]; exact hnul), htake, htrim]

theorem notMem_sessionValue {value : List UInt8} (htext : 0 ∉ text)
    (h : sessionValue text = some value) : 0 ∉ value := by
  obtain ⟨front, name, blanks, rfl, -⟩ := sessionValue_eq_some_iff.mp h
  intro hmem
  exact htext (by simp [hmem])

/-- The steps amount to the function as `handleResponse` calls it. -/
theorem handleResponseSetupIn_eq (sessionId : SessionIdArray) (htext : 0 ∉ text)
    (s : SatipRTSP) : handleResponseSetupIn sessionId text s = handleResponseSetup text s := by
  unfold handleResponseSetupIn handleResponseSetup
  cases hvalue : sessionValue text with
  | none => rfl
  | some value =>
    dsimp only
    rw [cutSessionId_eq _ (notMem_sessionValue htext hvalue), Vector.length_toList]
    by_cases hroom : value.length < 1024
    · rw [if_pos hroom, if_neg (by omega), Option.map_some]
      cases numberBehind "com.ses.streamID" 58 text <;> rfl
    · rw [if_neg hroom, if_pos (by omega), Option.map_none]

/-- Whatever was received, `session_id` is written and read within its bounds just when the text
from the session id on has less than 1024 bytes. -/
theorem sessionId_bounded (bytes : List UInt8) (sessionId : SessionIdArray)
    (s : SatipRTSP) : (handleResponseSetupIn sessionId (ofBytes bytes) s).isSome ↔
      ∀ tail, SessionTail (ofBytes bytes) tail → tail.length < 1024 := by
  have htext : 0 ∉ ofBytes bytes := CString.notMem_ofBytes bytes
  unfold handleResponseSetupIn
  cases hvalue : sessionValue (ofBytes bytes) with
  | none =>
    refine ⟨fun _ tail htail ↦ ?_, fun _ ↦ rfl⟩
    rw [← sessionValue_eq_some_iff, hvalue] at htail
    cases htail
  | some value =>
    dsimp only
    rw [Option.isSome_map, cutSessionId_eq _ (notMem_sessionValue htext hvalue),
      Vector.length_toList]
    constructor
    · intro hroom tail htail
      rw [← sessionValue_eq_some_iff, hvalue] at htail
      obtain rfl := Option.some.inj htail
      by_contra hlong
      rw [if_neg hlong] at hroom
      cases hroom
    · intro hshort
      rw [if_pos (hshort value (sessionValue_eq_some_iff.mp hvalue))]
      rfl

/-- The response to a SETUP, with a short session id and a header that is long. -/
def longSetup : List UInt8 :=
  ascii "RTSP/1.0 200 OK\r\nSession: 1;timeout=60\r\ncom.ses.streamID: 1\r\nServer: " ++
    List.replicate 1000 97 ++ blankLine

/-- It fits into the receive buffer, but not what is behind `Session` into `session_id`. -/
theorem sessionId_overflow : ∃ s, Runs.run step udpArgs.start setupRun = some s ∧
    longSetup.length < s.rxDataLen ∧ responseSize longSetup = some longSetup.length ∧
    handleResponse {} (.bytes longSetup) s = none ∧
    ∀ sessionId, handleResponseSetupIn sessionId longSetup s = none := by
  have hrun : (Runs.run step udpArgs.start setupRun).map (fun s ↦
      decide (s.rxDataPos = 0 ∧ longSetup.length < s.rxDataLen ∧ s.rtspRequest = .setup)) =
        some true := by decide +kernel
  obtain ⟨s, hs, hfields⟩ := Option.map_eq_some_iff.mp hrun
  obtain ⟨hpos, hfits, hrequest⟩ := of_decide_eq_true hfields
  have hvalue : ∃ value, sessionValue longSetup = some value ∧ value.length = 1047 := by
    have hlength : (sessionValue longSetup).map List.length = some 1047 := by decide +kernel
    exact Option.map_eq_some_iff.mp hlength
  obtain ⟨value, hvalue, hlength⟩ := hvalue
  have hlong : 1024 < value.length + 1 := by omega
  have hfault : ∀ s, handleResponseSetup longSetup s = none := by
    intro s
    rw [handleResponseSetup, hvalue]
    exact if_pos hlong
  have hsize : responseSize longSetup = some longSetup.length := by decide +kernel
  have hstring : ofBytes longSetup = longSetup := CString.ofBytes_of_notMem (by decide +kernel)
  refine ⟨s, hs, hfits, hsize, ?_, fun sessionId ↦ ?_⟩
  · have hroom : Fits s ({}, longSetup) := ⟨by decide +kernel, by simp only [room]; omega⟩
    have hreceived : received (push longSetup s) = longSetup := by
      rw [received_push_of_nonneg hpos.ge, received, hpos]
      rfl
    have hfirst : firstMessage (isTcpData (push longSetup s)) (received (push longSetup s)) =
        some (.response longSetup.length) := by
      rw [hreceived, firstMessage_eq_response_iff, hstring]
      exact ⟨by decide, hsize⟩
    have hstatus : statusCode longSetup = some 200 := by decide +kernel
    have hround : round {} .error 0 (push longSetup s) = none := by
      have hnext : (answered (longSetup.take longSetup.length)
          (terminated (push longSetup s))).rtspRequest = .setup := hrequest
      rw [round_of_response _ _ _ hfirst, if_neg (not_le.mpr (rxDataPos_push_lt hroom)), hreceived,
        hstring, responseRound]
      dsimp only
      rw [hnext, if_neg (by decide), hstatus, if_neg (by decide), handleByRequest, hnext]
      dsimp only
      rw [hfault]
      rfl
    rw [handleResponse_of_fits hroom, if_neg (by omega), loop_eq, hround]
    rfl
  · rw [handleResponseSetupIn_eq sessionId (by decide +kernel), hfault]

end SatipClient.RTSP
