import Mathlib.Data.Bool.AllAny
import SatipClient.Foundation.Numerals
import SatipClient.RTSP.SessionId

/-!
# Reading a SETUP response

What `handleResponseSetup` makes of a response with the headers `Session` and `com.ses.streamID`
in any order among others.  It searches its words in the whole text, and reads numbers in the base
that they seem to have.  So the session id is always the one of the header, the numbers are if they
do not start with a zero, and a timeout that the response leaves out must not be named behind it
either (`handleResponseSetup_reads_iff`).
-/

namespace SatipClient.RTSP

open CString (ascii ofBytes ofLines strstr strchr isspace isDigit strtol longToInt IsDecimal
  decimal)

/-- The words that `handleResponseSetup` searches. -/
def setupWords : List (List UInt8) := [ascii "Session", ascii "timeout", ascii "com.ses.streamID"]

/-- None of the words is in the text. -/
def FreeOfWords (text : List UInt8) : Prop := ∀ word ∈ setupWords, ¬word <:+: text

instance (text : List UInt8) : Decidable (FreeOfWords text) :=
  inferInstanceAs (Decidable (∀ word ∈ setupWords, ¬word <:+: text))

/-- A decimal numeral of an `int`. -/
def IsNumeral (digits : List UInt8) : Prop := IsDecimal digits ∧ decimal digits < 2 ^ 31

/-- What a SETUP response says.  The other lines include the status line and `Transport`. -/
structure SetupHeaders where
  sessionId : List UInt8
  timeout : Option (List UInt8)
  streamId : List UInt8
  others : List (List UInt8)
  sessionId_ne_nil : sessionId ≠ []
  sessionId_length : sessionId.length ≤ 500
  sessionId_printable : ∀ byte ∈ sessionId, 33 ≤ byte ∧ byte ≤ 126 ∧ byte ≠ 59
  sessionId_free : FreeOfWords sessionId
  timeout_numeral : ∀ digits ∈ timeout, IsNumeral digits
  streamId_numeral : IsNumeral streamId
  others_string : ∀ line ∈ others, 0 ∉ line
  others_free : ∀ line ∈ others, FreeOfWords line

namespace SetupHeaders

/-- The parameter of the header `Session`, if there is one. -/
def timeoutText (h : SetupHeaders) : List UInt8 :=
  h.timeout.elim [] fun digits ↦ ascii ";timeout=" ++ digits

/-- The header `Session`. -/
def sessionLine (h : SetupHeaders) : List UInt8 :=
  ascii "Session: " ++ h.sessionId ++ h.timeoutText

/-- The header `com.ses.streamID`. -/
def streamLine (h : SetupHeaders) : List UInt8 := ascii "com.ses.streamID: " ++ h.streamId

/-- The lines of the response, in some order. -/
def lines (h : SetupHeaders) : List (List UInt8) := h.sessionLine :: h.streamLine :: h.others

/-- The timeout of the response, 60 when it is left out. -/
def timeoutValue (h : SetupHeaders) : ℕ := h.timeout.elim 60 decimal

end SetupHeaders

/-- The text of a response with what follows it in the buffer. -/
def responseText (lines : List (List UInt8)) (trailing : List UInt8) : List UInt8 :=
  ofBytes (ofLines lines ++ [13, 10] ++ trailing)

/-- A numeral that does not look like an octal one, or means the same if it does. -/
def ReadsDecimal (digits : List UInt8) : Prop := digits.head? ≠ some 48 ∨ decimal digits < 8

instance (digits : List UInt8) : Decidable (ReadsDecimal digits) :=
  inferInstanceAs (Decidable (_ ∨ _))

/-- The text names a timeout: `number` is behind the first `=` behind the first `timeout`. -/
def NamesTimeout (text : List UInt8) (number : ℤ) : Prop :=
  ∃ front name rest, text = front ++ (ascii "timeout" ++ name ++ 61 :: rest) ∧
    ¬ascii "timeout" <:+: front ++ ascii "timeou" ∧ 61 ∉ name ∧ number = longToInt (strtol rest)

/-- The timeout is read right: it is written so that it is, or it is left out, the text behind the
response names no other than 60, and the client still has the 60 of `resetConnect`. -/
def ReadsTimeout (timeout : Option (List UInt8)) (behind : List UInt8) (s : SatipRTSP) : Prop :=
  match timeout with
  | some digits => ReadsDecimal digits
  | none => (∀ number, NamesTimeout behind number → number = 60) ∧
      ((∀ number, ¬NamesTimeout behind number) → s.rtspTimeout = 60)

variable {h : SetupHeaders} {lines : List (List UInt8)} {trailing word : List UInt8}
  {s : SatipRTSP}

/-! ## The lines -/

theorem setupWord_ne_nil (hword : word ∈ setupWords) : word ≠ [] := by
  revert hword word
  decide

/-- The words do not end a line, and have none of the other bytes between the parts of a header. -/
theorem notMem_setupWord (hword : word ∈ setupWords) :
    13 ∉ word ∧ 10 ∉ word ∧ 32 ∉ word ∧ 58 ∉ word ∧ 59 ∉ word ∧ 61 ∉ word := by
  revert hword word
  decide

/-- No word is in a numeral. -/
theorem not_infix_numeral (hword : word ∈ setupWords) {digits : List UInt8}
    (hdigits : IsDecimal digits) : ¬word <:+: digits := by
  have hletter : ∃ byte ∈ word, isDigit 10 byte = false := by
    revert hword word
    decide
  obtain ⟨byte, hbyte, hnot⟩ := hletter
  intro hin
  rw [hdigits.digit byte (hin.subset hbyte)] at hnot
  cases hnot

theorem infix_streamLine_iff (hword : word ∈ setupWords) :
    word <:+: h.streamLine ↔ word <:+: ascii "com.ses.streamID" := by
  obtain ⟨-, -, hblank, hcolon, -⟩ := notMem_setupWord hword
  have hsplit : h.streamLine = ascii "com.ses.streamID" ++ 58 :: ([] ++ 32 :: h.streamId) := by
    rw [SetupHeaders.streamLine, show ascii "com.ses.streamID: " =
      ascii "com.ses.streamID" ++ [58, 32] from by decide]
    simp
  rw [hsplit, CString.infix_append_cons_iff hcolon, CString.infix_append_cons_iff hblank,
    List.infix_nil]
  simp [setupWord_ne_nil hword, not_infix_numeral hword h.streamId_numeral.1]

theorem infix_timeoutText_iff (hword : word ∈ setupWords) :
    word <:+: h.timeoutText ↔ h.timeout.isSome ∧ word <:+: ascii "timeout" := by
  obtain ⟨-, -, -, -, hsemicolon, hequals⟩ := notMem_setupWord hword
  unfold SetupHeaders.timeoutText
  cases htimeout : h.timeout with
  | none => simp [setupWord_ne_nil hword]
  | some digits =>
    have hdigits : IsDecimal digits := (h.timeout_numeral digits htimeout).1
    have hsplit : ascii ";timeout=" ++ digits =
        [] ++ 59 :: (ascii "timeout" ++ 61 :: digits) := by
      rw [show ascii ";timeout=" = 59 :: (ascii "timeout" ++ [61]) from by decide]
      simp
    rw [Option.elim_some, hsplit, CString.infix_append_cons_iff hsemicolon,
      CString.infix_append_cons_iff hequals, List.infix_nil]
    simp [setupWord_ne_nil hword, not_infix_numeral hword hdigits]

/-- The session id and the parameter behind it are told apart by a semicolon. -/
theorem infix_sessionId_append_iff (hword : word ∈ setupWords) :
    word <:+: h.sessionId ++ h.timeoutText ↔ word <:+: h.timeoutText := by
  obtain ⟨-, -, -, -, hsemicolon, -⟩ := notMem_setupWord hword
  have hfree := h.sessionId_free word hword
  unfold SetupHeaders.timeoutText
  cases h.timeout with
  | none => simp [hfree, setupWord_ne_nil hword]
  | some digits =>
    have hsplit : ascii ";timeout=" ++ digits = 59 :: (ascii "timeout=" ++ digits) := rfl
    have hnil : ¬word <:+: [] := by
      rw [List.infix_nil]
      exact setupWord_ne_nil hword
    rw [Option.elim_some, hsplit, CString.infix_append_cons_iff hsemicolon,
      ← List.nil_append (59 :: _), CString.infix_append_cons_iff hsemicolon]
    simp [hfree, hnil]

theorem infix_sessionLine_iff (hword : word ∈ setupWords) :
    word <:+: h.sessionLine ↔
      word <:+: ascii "Session" ∨ h.timeout.isSome ∧ word <:+: ascii "timeout" := by
  obtain ⟨-, -, hblank, hcolon, -⟩ := notMem_setupWord hword
  have hsplit : h.sessionLine =
      ascii "Session" ++ 58 :: ([] ++ 32 :: (h.sessionId ++ h.timeoutText)) := by
    rw [SetupHeaders.sessionLine, show ascii "Session: " = ascii "Session" ++ [58, 32] from by
      decide]
    simp
  rw [hsplit, CString.infix_append_cons_iff hcolon, CString.infix_append_cons_iff hblank,
    infix_sessionId_append_iff hword, infix_timeoutText_iff hword, List.infix_nil]
  simp [setupWord_ne_nil hword]

/-- The lines end where they should: none of them has a NUL. -/
theorem notMem_lines (hlines : lines.Perm h.lines) : 0 ∉ ofLines lines := by
  have hdigits {digits : List UInt8} (hdecimal : IsDecimal digits) : 0 ∉ digits := by
    intro hmem
    cases hdecimal.digit 0 hmem
  have hid : 0 ∉ h.sessionId := by
    intro hmem
    exact absurd (h.sessionId_printable 0 hmem).1 (by decide)
  have htimeout : 0 ∉ h.timeoutText := by
    unfold SetupHeaders.timeoutText
    cases hsome : h.timeout with
    | none => simp
    | some digits =>
      rw [Option.elim_some, List.mem_append, not_or]
      exact ⟨by decide, hdigits (h.timeout_numeral digits hsome).1⟩
  have hsession : 0 ∉ h.sessionLine := by
    simp only [SetupHeaders.sessionLine, List.mem_append, not_or]
    exact ⟨⟨by decide, hid⟩, htimeout⟩
  have hstream : 0 ∉ h.streamLine := by
    simp only [SetupHeaders.streamLine, List.mem_append, not_or]
    exact ⟨by decide, hdigits h.streamId_numeral.1⟩
  have hline : ∀ line ∈ lines, 0 ∉ line := by
    intro line hmem
    rcases List.mem_cons.mp (hlines.mem_iff.mp hmem) with rfl | hrest
    · exact hsession
    rcases List.mem_cons.mp hrest with rfl | hother
    · exact hstream
    · exact h.others_string line hother
  intro hmem
  obtain ⟨ended, hended, hin⟩ := List.mem_flatten.mp hmem
  obtain ⟨line, hmemLine, rfl⟩ := List.mem_map.mp hended
  rcases List.mem_append.mp hin with hzero | hzero
  · exact hline line hmemLine hzero
  · exact absurd hzero (by decide)

theorem responseText_eq (hlines : lines.Perm h.lines) (trailing : List UInt8) :
    responseText lines trailing = ofLines lines ++ ([13, 10] ++ ofBytes trailing) := by
  rw [responseText, List.append_assoc, CString.ofBytes_append (notMem_lines hlines),
    CString.ofBytes_append (by decide)]

/-! ## What is found -/

/-- A word that is in one line alone is found there. -/
theorem strstr_responseText (hword : word ∈ setupWords) (hlines : lines.Perm h.lines)
    {line before behind : List UInt8} (hmem : line ∈ h.lines)
    (hline : line = before ++ (word ++ behind)) (hbefore : ¬word <:+: before ++ word.dropLast)
    (hothers : ∀ other ∈ h.lines, other ≠ line → ¬word <:+: other) (trailing : List UInt8) :
    ∃ more, strstr word (responseText lines trailing) =
      some (word ++ (behind ++ 13 :: 10 :: more)) := by
  obtain ⟨hcr, hlf, -⟩ := notMem_setupWord hword
  rw [responseText_eq hlines]
  exact CString.strstr_ofLines hcr hlf (setupWord_ne_nil hword) (hlines.mem_iff.mpr hmem) hline
    hbefore
    (fun other hother ↦ hothers other (hlines.mem_iff.mp hother)) _

theorem mem_setupWords : ascii "Session" ∈ setupWords ∧ ascii "timeout" ∈ setupWords ∧
    ascii "com.ses.streamID" ∈ setupWords := by decide

/-- The session id is in one line alone, and so is a timeout. -/
theorem not_infix_of_ne_sessionLine (hword : word ∈ setupWords)
    (hstream : ¬word <:+: ascii "com.ses.streamID") {line : List UInt8} (hline : line ∈ h.lines)
    (hne : line ≠ h.sessionLine) : ¬word <:+: line := by
  rcases List.mem_cons.mp hline with hsession | hrest
  · exact absurd hsession hne
  rcases List.mem_cons.mp hrest with rfl | hother
  · rw [infix_streamLine_iff hword]
    exact hstream
  · exact h.others_free line hother word hword

theorem not_infix_of_ne_streamLine {line : List UInt8} (hline : line ∈ h.lines)
    (hne : line ≠ h.streamLine) : ¬ascii "com.ses.streamID" <:+: line := by
  rcases List.mem_cons.mp hline with rfl | hrest
  · rw [infix_sessionLine_iff mem_setupWords.2.2, not_or]
    exact ⟨by decide, fun hin ↦ absurd hin.2 (by decide)⟩
  rcases List.mem_cons.mp hrest with hstream | hother
  · exact absurd hstream hne
  · exact h.others_free line hother _ mem_setupWords.2.2

theorem isspace_eq_false_of_printable {byte : UInt8} (hlow : 33 ≤ byte) : isspace byte = false := by
  unfold CString.isspace
  grind

theorem sessionValue_responseText (hlines : lines.Perm h.lines) (trailing : List UInt8) :
    ∃ more, sessionValue (responseText lines trailing) =
      some (h.sessionId ++ (h.timeoutText ++ 13 :: 10 :: more)) := by
  have hline : h.sessionLine =
      [] ++ (ascii "Session" ++ (58 :: 32 :: (h.sessionId ++ h.timeoutText))) := by
    rw [SetupHeaders.sessionLine, show ascii "Session: " = ascii "Session" ++ [58, 32] from by
      decide]
    simp
  have hothers : ∀ other ∈ h.lines, other ≠ h.sessionLine → ¬ascii "Session" <:+: other :=
    fun other hother hne ↦ not_infix_of_ne_sessionLine mem_setupWords.1 (by decide) hother hne
  obtain ⟨more, hfound⟩ := strstr_responseText mem_setupWords.1 hlines List.mem_cons_self hline
    (by decide) hothers trailing
  refine ⟨more, ?_⟩
  obtain ⟨first, rest, hid⟩ := List.exists_cons_of_ne_nil h.sessionId_ne_nil
  have hfirst : isspace first = false :=
    isspace_eq_false_of_printable (h.sessionId_printable first (by simp [hid])).1
  have hblank : isspace 32 = true := rfl
  rw [sessionValue, hfound, Option.bind_some, CString.strchr_append_of_notMem (by decide)]
  simp [CString.strchr, hid, hfirst, hblank]

theorem trimSessionId_value (h : SetupHeaders) (more : List UInt8) :
    trimSessionId (h.sessionId ++ (h.timeoutText ++ 13 :: 10 :: more)) = h.sessionId := by
  have hplain : ∀ byte ∈ h.sessionId, decide (byte ≠ 59 ∧ byte ≠ 10) = true := by
    intro byte hbyte
    obtain ⟨hlow, -, hsemicolon⟩ := h.sessionId_printable byte hbyte
    apply decide_eq_true
    refine ⟨hsemicolon, ?_⟩
    rintro rfl
    exact absurd hlow (by decide)
  have hlast : ∀ byte ∈ h.sessionId.getLast?, isspace byte = false := fun byte hbyte ↦
    isspace_eq_false_of_printable (h.sessionId_printable byte (List.mem_of_getLast? hbyte)).1
  have htrim : h.sessionId.rdropWhile isspace = h.sessionId := by
    rw [List.rdropWhile_eq_self_iff]
    intro hne
    simpa using hlast _ (List.getLast?_eq_some_getLast hne)
  rw [trimSessionId, List.takeWhile_append_of_pos hplain]
  unfold SetupHeaders.timeoutText
  cases h.timeout with
  | none =>
    have hcr : isspace 13 = true := rfl
    have hend : ([] ++ 13 :: 10 :: more : List UInt8).takeWhile
        (fun byte ↦ decide (byte ≠ 59 ∧ byte ≠ 10)) = [13] := by simp
    rw [Option.elim_none, hend, List.rdropWhile_concat_pos _ _ _ hcr, htrim]
  | some digits =>
    have hend : (ascii ";timeout=" ++ digits ++ 13 :: 10 :: more).takeWhile
        (fun byte ↦ decide (byte ≠ 59 ∧ byte ≠ 10)) = [] := by
      rw [show ascii ";timeout=" = 59 :: ascii "timeout=" from by decide]
      simp
    rw [Option.elim_some, hend, List.append_nil, htrim]

/-- The number behind the name and the separator of a header, if it is there. -/
theorem numberBehind_eq_of_strstr {name : String} {separator : UInt8} {text rest : List UInt8}
    (hfound : strstr (ascii name) text = some (ascii name ++ separator :: rest))
    (hseparator : separator ∉ ascii name) :
    numberBehind name separator text = some (longToInt (strtol rest)) := by
  rw [numberBehind, hfound, Option.bind_some, CString.strchr_append_of_notMem hseparator]
  simp [CString.strchr]

theorem numberBehind_timeout_of_some (hlines : lines.Perm h.lines) {digits : List UInt8}
    (htimeout : h.timeout = some digits) (trailing : List UInt8) :
    ∃ more, numberBehind "timeout" 61 (responseText lines trailing) =
      some (longToInt (strtol (digits ++ 13 :: 10 :: more))) := by
  obtain ⟨-, -, hblank, hcolon, hsemicolon, -⟩ := notMem_setupWord mem_setupWords.2.1
  have hline : h.sessionLine =
      ascii "Session: " ++ h.sessionId ++ [59] ++ (ascii "timeout" ++ 61 :: digits) := by
    rw [SetupHeaders.sessionLine, SetupHeaders.timeoutText, htimeout, Option.elim_some,
      show ascii ";timeout=" = 59 :: (ascii "timeout" ++ [61]) from by decide]
    simp
  have hbefore : ¬ascii "timeout" <:+:
      ascii "Session: " ++ h.sessionId ++ [59] ++ (ascii "timeout").dropLast := by
    have hsplit : ascii "Session: " ++ h.sessionId ++ [59] ++ (ascii "timeout").dropLast =
        ascii "Session" ++
          58 :: ([] ++ 32 :: (h.sessionId ++ 59 :: (ascii "timeout").dropLast)) := by
      rw [show ascii "Session: " = ascii "Session" ++ [58, 32] from by decide]
      simp
    rw [hsplit, CString.infix_append_cons_iff hcolon, CString.infix_append_cons_iff hblank,
      CString.infix_append_cons_iff hsemicolon]
    simp only [not_or]
    exact ⟨by decide, by decide, h.sessionId_free _ mem_setupWords.2.1, by decide⟩
  have hothers : ∀ other ∈ h.lines, other ≠ h.sessionLine → ¬ascii "timeout" <:+: other :=
    fun other hother hne ↦ not_infix_of_ne_sessionLine mem_setupWords.2.1 (by decide) hother hne
  obtain ⟨more, hfound⟩ := strstr_responseText mem_setupWords.2.1 hlines List.mem_cons_self hline
    hbefore hothers trailing
  exact ⟨more, numberBehind_eq_of_strstr hfound (by decide)⟩

theorem numberBehind_timeout_of_none (hlines : lines.Perm h.lines) (htimeout : h.timeout = none)
    (trailing : List UInt8) : numberBehind "timeout" 61 (responseText lines trailing) =
      numberBehind "timeout" 61 (ofBytes trailing) := by
  obtain ⟨hcr, hlf, -⟩ := notMem_setupWord mem_setupWords.2.1
  have hfree : ∀ line ∈ lines ++ [[]], ¬ascii "timeout" <:+: line := by
    intro line hline
    rcases List.mem_append.mp hline with hmem | hnil
    · by_cases hsession : line = h.sessionLine
      · rw [hsession, infix_sessionLine_iff mem_setupWords.2.1, htimeout]
        decide
      · exact not_infix_of_ne_sessionLine mem_setupWords.2.1 (by decide) (hlines.mem_iff.mp hmem)
          hsession
    · rw [List.mem_singleton.mp hnil]
      decide
  have hwhole : ofLines lines ++ ([13, 10] ++ ofBytes trailing) =
      ofLines (lines ++ [[]]) ++ ofBytes trailing := by
    rw [CString.ofLines_append]
    simp [CString.ofLines]
  rw [responseText_eq hlines, hwhole, numberBehind,
    CString.strstr_ofLines_append hcr hlf (by decide) hfree, numberBehind]

theorem numberBehind_streamId (hlines : lines.Perm h.lines) (trailing : List UInt8) :
    ∃ more, numberBehind "com.ses.streamID" 58 (responseText lines trailing) =
      some (longToInt (strtol ([32] ++ (h.streamId ++ 13 :: 10 :: more)))) := by
  have hline : h.streamLine = [] ++ (ascii "com.ses.streamID" ++ 58 :: ([32] ++ h.streamId)) := by
    rw [SetupHeaders.streamLine, show ascii "com.ses.streamID: " =
      ascii "com.ses.streamID" ++ [58, 32] from by decide]
    simp
  have hothers : ∀ other ∈ h.lines, other ≠ h.streamLine → ¬ascii "com.ses.streamID" <:+: other :=
    fun other hother hne ↦ not_infix_of_ne_streamLine hother hne
  obtain ⟨more, hfound⟩ := strstr_responseText mem_setupWords.2.2 hlines
    (List.mem_cons_of_mem _ List.mem_cons_self) hline (by decide) hothers trailing
  exact ⟨more, numberBehind_eq_of_strstr hfound (by decide)⟩

/-! ## What is read -/

theorem numberBehind_timeout_eq_some_iff {text : List UInt8} {number : ℤ} :
    numberBehind "timeout" 61 text = some number ↔ NamesTimeout text number := by
  simp only [numberBehind, Option.map_eq_some_iff,
    CString.strstr_bind_strchr_eq_some_iff (show ascii "timeout" ≠ [] by decide)
      (show (61 : UInt8) ∉ ascii "timeout" by decide)]
  constructor
  · rintro ⟨-, ⟨front, name, rest, hwhole, hfirst, hname, rfl⟩, rfl⟩
    exact ⟨front, name, rest, hwhole, hfirst, hname, rfl⟩
  · rintro ⟨front, name, rest, hwhole, hfirst, hname, rfl⟩
    exact ⟨_, ⟨front, name, rest, hwhole, hfirst, hname, rfl⟩, rfl⟩

/-- Without a timeout in the response, the one behind it counts, or the one that was. -/
theorem readsTimeout_none_iff (behind : List UInt8) (s : SatipRTSP) :
    ReadsTimeout none behind s ↔ (numberBehind "timeout" 61 behind).getD s.rtspTimeout = 60 := by
  simp only [ReadsTimeout, ← numberBehind_timeout_eq_some_iff]
  cases numberBehind "timeout" 61 behind with
  | none => simp
  | some number =>
    simp

theorem timeout_responseText_iff (hlines : lines.Perm h.lines) (trailing : List UInt8)
    (s : SatipRTSP) :
    (numberBehind "timeout" 61 (responseText lines trailing)).getD s.rtspTimeout =
        (h.timeoutValue : ℤ) ↔ ReadsTimeout h.timeout (ofBytes trailing) s := by
  unfold SetupHeaders.timeoutValue
  cases htimeout : h.timeout with
  | none =>
    rw [numberBehind_timeout_of_none hlines htimeout, readsTimeout_none_iff]
    rfl
  | some digits =>
    obtain ⟨hdecimal, hint⟩ := h.timeout_numeral digits htimeout
    obtain ⟨more, hread⟩ := numberBehind_timeout_of_some hlines htimeout trailing
    have hblanks : ∀ byte ∈ ([] : List UInt8), isspace byte = true := by simp
    rw [hread, Option.getD_some]
    exact CString.strtol_numeral_iff hdecimal hint (by decide) hblanks (10 :: more)

/-- A response that fits into `session_id`. -/
theorem handleResponseSetup_responseText (hlines : lines.Perm h.lines) (trailing : List UInt8)
    (hsafe : handleResponseSetup (responseText lines trailing) s ≠ none) :
    ∃ streamId, numberBehind "com.ses.streamID" 58 (responseText lines trailing) = some streamId ∧
      (streamId = decimal h.streamId ↔ ReadsDecimal h.streamId) ∧
      handleResponseSetup (responseText lines trailing) s = some (.responseComplete,
        withSession h.sessionId
          ((numberBehind "timeout" 61 (responseText lines trailing)).getD s.rtspTimeout)
          streamId s) := by
  obtain ⟨more, hvalue⟩ := sessionValue_responseText hlines trailing
  obtain ⟨rest, hstream⟩ := numberBehind_streamId hlines trailing
  have hreads := CString.strtol_numeral_iff h.streamId_numeral.1 h.streamId_numeral.2
    (show CString.digitValue 13 = none by decide)
    (show ∀ byte ∈ ([32] : List UInt8), isspace byte = true by simp [isspace]) (10 :: rest)
  refine ⟨_, hstream, hreads, ?_⟩
  unfold handleResponseSetup at hsafe ⊢
  rw [hvalue] at hsafe ⊢
  dsimp only at hsafe ⊢
  split at hsafe
  case isTrue => exact absurd rfl hsafe
  case isFalse hroom =>
    rw [if_neg hroom, hstream, trimSessionId_value]
    rfl

/-- As long as `session_id` has room for the response, with its lines in any order and whatever
follows it, the session id is read exactly, and the numbers are read as decimal ones just when they
are not written like octal ones, a timeout that is left out as 60 just when there is no other. -/
theorem handleResponseSetup_reads_iff (hlines : lines.Perm h.lines) (trailing : List UInt8)
    (hsafe : handleResponseSetup (responseText lines trailing) s ≠ none) :
    (∃ timeout streamId, handleResponseSetup (responseText lines trailing) s =
      some (.responseComplete, withSession h.sessionId timeout streamId s)) ∧
    (handleResponseSetup (responseText lines trailing) s = some (.responseComplete,
        withSession h.sessionId h.timeoutValue (decimal h.streamId) s) ↔
      ReadsTimeout h.timeout (ofBytes trailing) s ∧ ReadsDecimal h.streamId) := by
  obtain ⟨streamId, -, hreads, hresult⟩ := handleResponseSetup_responseText hlines trailing hsafe
  refine ⟨⟨_, _, hresult⟩, ?_⟩
  rw [hresult, ← timeout_responseText_iff hlines trailing s, ← hreads]
  constructor
  · intro hsame
    have hnext := congrArg Prod.snd (Option.some.inj hsame)
    exact ⟨congrArg SatipRTSP.rtspTimeout hnext, congrArg SatipRTSP.rtspStreamId hnext⟩
  · rintro ⟨htimeout, hstream⟩
    rw [htimeout, hstream]

/-- A response without a timeout, with this stream id. -/
def sampleHeaders (streamId : List UInt8) (hstreamId : IsNumeral streamId) : SetupHeaders where
  sessionId := ascii "0521595368"
  timeout := none
  streamId := streamId
  others := [ascii "RTSP/1.0 200 OK", ascii "CSeq: 1", ascii "Transport: RTP/AVP;unicast"]
  sessionId_ne_nil := by decide
  sessionId_length := by decide
  sessionId_printable := List.all_iff_forall_prop.mp (by decide)
  sessionId_free := by decide
  timeout_numeral := by simp
  streamId_numeral := hstreamId
  others_string := by decide
  others_free := by decide

theorem isNumeral_one : IsNumeral (ascii "1") := ⟨by decide, by decide⟩

theorem isNumeral_ten : IsNumeral (ascii "010") := ⟨by decide, by decide⟩

/-- The response with stream id 1 is read as it should be. -/
theorem handleResponseSetup_reads_iff_one :
    handleResponseSetup (responseText (sampleHeaders (ascii "1") isNumeral_one).lines [])
        udpArgs.start =
      some (.responseComplete, withSession (ascii "0521595368") 60 1 udpArgs.start) := by
  have hsafe : handleResponseSetup
      (responseText (sampleHeaders (ascii "1") isNumeral_one).lines []) udpArgs.start ≠ none := by
    intro hnone
    have hsome : (handleResponseSetup (responseText
        (sampleHeaders (ascii "1") isNumeral_one).lines []) udpArgs.start).isSome = true := by
      decide
    rw [hnone] at hsome
    cases hsome
  have hreads : ReadsTimeout none (ofBytes []) udpArgs.start := by
    rw [readsTimeout_none_iff]
    decide
  exact (handleResponseSetup_reads_iff (h := sampleHeaders (ascii "1") isNumeral_one)
    (List.Perm.refl _) [] hsafe).2.mpr ⟨hreads, by decide⟩

/-- A stream id with a leading zero is read as an octal number, and a timeout behind the response as
one of it. -/
theorem not_handleResponseSetup_reads :
    (∃ next, handleResponseSetup (responseText (sampleHeaders (ascii "010") isNumeral_ten).lines [])
        udpArgs.start = some (.responseComplete, next) ∧
      next.rtspStreamId = 8 ∧ decimal (ascii "010") = 10) ∧
    ∃ next, handleResponseSetup (responseText (sampleHeaders (ascii "1") isNumeral_one).lines
        (ascii "timeout=5")) udpArgs.start = some (.responseComplete, next) ∧
      next.rtspTimeout = 5 ∧ (sampleHeaders (ascii "1") isNumeral_one).timeoutValue = 60 := by
  refine ⟨⟨_, rfl, by decide, by decide⟩, ⟨_, rfl, by decide, by decide⟩⟩

end SatipClient.RTSP
