import SatipClient.Foundation.Lines
import SatipClient.Foundation.Split

/-!
# Heads of messages

A message of an Internet protocol starts with a head: a first line, lines with a header each, and a
blank line.  What was written is read back (`read_text`) if no line contains a newline and no name
of a header a colon.
-/

namespace SatipClient.Heads

open CString (ofLines)
open Split (split)

/-- The first line and the headers, each with its name and its value. -/
structure Head where
  first : List UInt8
  headers : List (List UInt8 × List UInt8)
  deriving DecidableEq

/-- The line of a header. -/
def headerLine (header : List UInt8 × List UInt8) : List UInt8 :=
  header.1 ++ ([58, 32] ++ header.2)

/-- The text of a head. -/
def Head.text (head : Head) : List UInt8 :=
  ofLines (head.first :: head.headers.map headerLine ++ [[]])

/-! ## Reading -/

/-- A line without the carriage return that ends it. -/
def chop (line : List UInt8) : Option (List UInt8) :=
  if line.getLast? = some 13 then some line.dropLast else none

/-- A header, which is a name, a colon and a blank, and a value. -/
def readHeader (line : List UInt8) : Option (List UInt8 × List UInt8) :=
  match line.dropWhile (· ≠ 58) with
  | 58 :: 32 :: value => some (line.takeWhile (· ≠ 58), value)
  | _ => none

/-- The headers up to the blank line, which has to be the last one. -/
def readHeaders : List (List UInt8) → Option (List (List UInt8 × List UInt8))
  | [] => none
  | line :: lines =>
    match chop line with
    | none => none
    | some [] => if lines = [] then some [] else none
    | some line => (readHeader line).bind fun header ↦ (readHeaders lines).map (header :: ·)

/-- Read a head. -/
def read (text : List UInt8) : Option Head :=
  match split 10 text with
  | [] => none
  | line :: lines => (chop line).bind fun first ↦ (readHeaders lines).map (Head.mk first)

example : read [65, 13, 10, 66, 58, 32, 67, 13, 10, 13, 10] =
    some { first := [65], headers := [([66], [67])] } := by decide

/-! ## What was written is read -/

/-- The lines of a head can be told apart, and so can the parts of a header. -/
structure Head.Plain (head : Head) : Prop where
  first : 10 ∉ head.first
  names : ∀ header ∈ head.headers, 58 ∉ header.1 ∧ 10 ∉ header.1
  values : ∀ header ∈ head.headers, 10 ∉ header.2

variable {head : Head} {header : List UInt8 × List UInt8} {lines : List (List UInt8)}

theorem chop_append (line : List UInt8) : chop (line ++ [13]) = some line := by
  rw [chop, List.getLast?_concat, if_pos rfl, List.dropLast_concat]

theorem split_ofLines (h : ∀ line ∈ lines, 10 ∉ line) :
    split 10 (ofLines lines) = lines.map (· ++ [13]) := by
  have hlines : ofLines lines = ((lines.map (· ++ [13])).map (· ++ [10])).flatten ++ [] := by
    rw [ofLines, List.map_map, List.append_nil]
    congr 2
    funext line
    simp
  have hplain : ∀ line ∈ lines.map (· ++ [13]), 10 ∉ line := by
    intro line hline
    obtain ⟨line, hmem, rfl⟩ := List.mem_map.mp hline
    rw [List.mem_append, not_or]
    exact ⟨h line hmem, by decide⟩
  rw [hlines, Split.split_flatten hplain, Split.split_nil, List.append_nil]

theorem readHeader_headerLine (h : 58 ∉ header.1) :
    readHeader (headerLine header) = some header := by
  have hname : ∀ byte ∈ header.1, decide (byte ≠ 58) = true := fun byte hbyte ↦
    decide_eq_true (ne_of_mem_of_not_mem hbyte h)
  have hrest : (headerLine header).dropWhile (· ≠ 58) = 58 :: 32 :: header.2 := by
    rw [headerLine, List.dropWhile_append_of_pos hname]
    rfl
  have hfront : (headerLine header).takeWhile (· ≠ 58) = header.1 := by
    rw [headerLine, List.takeWhile_append_of_pos hname]
    simp
  rw [readHeader, hrest, hfront]
  rfl

theorem headerLine_ne_nil (header : List UInt8 × List UInt8) : headerLine header ≠ [] := by
  simp [headerLine]

theorem readHeaders_lines {headers : List (List UInt8 × List UInt8)}
    (h : ∀ header ∈ headers, 58 ∉ header.1) :
    readHeaders ((headers.map headerLine ++ [[]]).map (· ++ [13])) = some headers := by
  induction headers with
  | nil => rfl
  | cons header headers ih =>
    have hrest := ih fun other hother ↦ h other (List.mem_cons_of_mem header hother)
    obtain ⟨byte, line, hline⟩ := List.exists_cons_of_ne_nil (headerLine_ne_nil header)
    rw [List.map_cons, List.cons_append, List.map_cons, readHeaders, chop_append, hline]
    dsimp only
    rw [← hline, readHeader_headerLine (h header List.mem_cons_self), hrest]
    rfl

/-- A head that was written is read back. -/
theorem read_text (h : head.Plain) : read head.text = some head := by
  have hlines : ∀ line ∈ head.first :: head.headers.map headerLine ++ [[]], 10 ∉ line := by
    intro line hline
    rw [List.mem_append, List.mem_cons, List.mem_singleton, List.mem_map] at hline
    rcases hline with (rfl | ⟨header, hheader, rfl⟩) | rfl
    · exact h.first
    · rw [headerLine, List.mem_append, List.mem_append, not_or, not_or]
      exact ⟨(h.names header hheader).2, by decide, h.values header hheader⟩
    · exact List.not_mem_nil
  rw [read, Head.text, split_ofLines hlines, List.cons_append, List.map_cons]
  dsimp only
  rw [chop_append, readHeaders_lines fun header hheader ↦ (h.names header hheader).1]
  rfl

end SatipClient.Heads
