import Telemetry.Proofs.Log.Resume

/-!
# The last line, found from the end

Where to resume is told by the last line of the file, and the scan that looks for it goes backwards
from the end. What it finds is the last of the lines that a reading from the front comes to
(`FindsLastLine`), for a file of any bytes.

## Three parts

A file with a line is split at its last one (`StandsLast`): what stands before it is closed by the
end of a line, and what stands behind it is nothing but ends of lines. The scan tells the three
parts apart by a single bit, whether it has come to a byte of a line yet. Until then it passes over
line ends (`scanBack_ends`), from then on it takes bytes (`scanBack_append`), and the next line end
stops it. So of the first part it looks at the last byte only, and never further.
-/

namespace Telemetry.LogFile

/-- How many bytes the scan for the last line looks at. -/
def bytesLookedAt (content : List UInt8) : Nat := (scanBack [] 0 content.reverse).2

/-- The last line of a content stands between what other lines are in and some line ends. -/
structure StandsLast (before line after content : List UInt8) : Prop where
  content_eq : content = before ++ line ++ after
  closed : IsTerminated before
  ne_nil : line ≠ []
  unbroken : ∀ b ∈ line, isLineEnd b = false
  ends : ∀ b ∈ after, isLineEnd b = true

variable {before line after content : List UInt8}

/-! ## Line ends -/

/-- Before a byte of a line was found, line ends are passed over. -/
theorem scanBack_ends {ends : List UInt8} (h : ∀ b ∈ ends, isLineEnd b = true) (looked : Nat)
    (rest : List UInt8) :
    scanBack [] looked (ends ++ rest) = scanBack [] (looked + ends.length) rest := by
  induction ends generalizing looked with
  | nil => rfl
  | cons b ends ih =>
    rw [List.forall_mem_cons] at h
    rw [List.cons_append, scanBack, if_pos h.1, if_pos List.isEmpty_nil, ih h.2, List.length_cons,
      Nat.add_assoc, Nat.add_comm 1]

theorem lines_of_ends {ends : List UInt8} (h : ∀ b ∈ ends, isLineEnd b = true) :
    lines ends = [] := by
  induction ends with
  | nil => rfl
  | cons b ends ih =>
    rw [List.forall_mem_cons] at h
    exact (lines_append_cons h.1 [] ends).trans (ih h.2)

theorem lines_append_ends {ends : List UInt8} (h : ∀ b ∈ ends, isLineEnd b = true)
    (content : List UInt8) : lines (content ++ ends) = lines content := by
  cases ends with
  | nil => rw [List.append_nil]
  | cons b ends =>
    rw [List.forall_mem_cons] at h
    rw [lines_append_cons h.1, lines_of_ends h.2, List.append_nil]

theorem isLineEnd_of_isTerminated_concat {others : List UInt8} {b : UInt8}
    (h : IsTerminated (others ++ [b])) : isLineEnd b = true := by
  rcases h with hnil | ⟨before, last, heq, hlast⟩
  · exact absurd hnil (List.append_ne_nil_of_right_ne_nil _ (List.cons_ne_nil b []))
  · obtain ⟨-, hb⟩ := List.append_inj' heq rfl
    rwa [List.singleton_inj.1 hb]

/-! ## The three parts -/

/-- A content has a last line, unless it is nothing but line ends. -/
theorem exists_standsLast (content : List UInt8) :
    (∀ b ∈ content, isLineEnd b = true) ∨
      ∃ before line after, StandsLast before line after content := by
  have hsplit : content.rdropWhile isLineEnd ++ content.rtakeWhile isLineEnd = content :=
    List.rdropWhile_append_rtakeWhile
  have hends : ∀ b ∈ content.rtakeWhile isLineEnd, isLineEnd b = true := fun b hb ↦
    List.mem_rtakeWhile_imp hb
  by_cases hne : content.rdropWhile isLineEnd = []
  · left
    rw [hne, List.nil_append] at hsplit
    rwa [hsplit] at hends
  · right
    obtain ⟨closed, hclosed, hvisible⟩ := exists_eq_append_openTail (content.rdropWhile isLineEnd)
    refine ⟨closed, openTail (content.rdropWhile isLineEnd), content.rtakeWhile isLineEnd, ?_,
      hclosed, fun hnil ↦ ?_, fun b ↦ not_isLineEnd_of_mem_openTail, hends⟩
    · rw [← hvisible, hsplit]
    · -- What is left of the content ends with a byte of a line.
      have hlast := List.rtakeWhile_eq_nil_iff.1 hnil hne
      have hplain := List.rdropWhile_last_not isLineEnd content hne
      rw [Bool.not_eq_true] at hplain
      exact hlast (by rw [hplain]; rfl)

theorem StandsLast.lines_eq (h : StandsLast before line after content) :
    lines content = lines before ++ [line] := by
  rw [h.content_eq, lines_append_ends h.ends, lines_append_of_isTerminated h.closed,
    lines_of_stretch h.ne_nil h.unbroken]

theorem StandsLast.getLast?_lines (h : StandsLast before line after content) :
    (lines content).getLast? = some line := by
  rw [h.lines_eq, List.getLast?_concat]

/-- The scan comes to the line, and goes on into what stands before it. -/
theorem StandsLast.scanBack_eq (h : StandsLast before line after content) :
    scanBack [] 0 content.reverse = scanBack line (line.length + after.length) before.reverse := by
  have hends : ∀ b ∈ after.reverse, isLineEnd b = true := fun b hb ↦
    h.ends b (List.mem_reverse.1 hb)
  have hunbroken : ∀ b ∈ line.reverse, isLineEnd b = false := fun b hb ↦
    h.unbroken b (List.mem_reverse.1 hb)
  rw [h.content_eq, List.reverse_append, List.reverse_append, scanBack_ends hends,
    scanBack_append hunbroken, List.reverse_reverse, List.append_nil, List.length_reverse,
    List.length_reverse, Nat.zero_add, Nat.add_comm after.length]

/-- With a line at hand, the scan stops at the line end that closes what stands before it. -/
theorem scanBack_closed (hne : line ≠ []) {b : UInt8} (hb : isLineEnd b = true) (looked : Nat)
    (others : List UInt8) :
    scanBack line looked (others ++ [b]).reverse = (line, looked + 1) := by
  have hempty : ¬ line.isEmpty = true := by rwa [List.isEmpty_iff]
  rw [List.reverse_concat, scanBack, if_pos hb, if_neg hempty]

theorem StandsLast.scanBack_eq_mk (h : StandsLast before line after content) :
    scanBack [] 0 content.reverse =
      (line, line.length + after.length + if before = [] then 0 else 1) := by
  rw [h.scanBack_eq]
  rcases h.closed with rfl | ⟨others, b, rfl, hb⟩
  · rfl
  · have hne : others ++ [b] ≠ [] := List.append_ne_nil_of_right_ne_nil _ (List.cons_ne_nil b [])
    rw [if_neg hne, scanBack_closed h.ne_nil hb]

/-! ## The last line -/

/-- Going backwards finds the line that reading forwards comes to last. -/
structure FindsLastLine (content : List UInt8) : Prop where
  found : lastLine content = ((lines content).getLast?.map Utf8.decodeLossy).getD ""
  /-- Each byte is looked at once at most. -/
  looked_le : bytesLookedAt content ≤ content.length
  /-- The line and what stands behind it are looked at, and the byte before it if there is one. -/
  looked_eq : ∀ line, (lines content).getLast? = some line → ∃ before after,
    StandsLast before line after content ∧
      bytesLookedAt content = line.length + after.length + if before = [] then 0 else 1
  /-- Nothing before that byte matters. -/
  blind : ∀ others b line after, StandsLast (others ++ [b]) line after content →
    ∀ others', scanBack [] 0 (others' ++ [b] ++ line ++ after).reverse =
      scanBack [] 0 content.reverse

theorem decodeLossy_nil : Utf8.decodeLossy [] = "" :=
  congrArg String.ofList (Utf8.decodeLossyChars_encodeChars [])

theorem findsLastLine_of_ends (h : ∀ b ∈ content, isLineEnd b = true) :
    FindsLastLine content := by
  have hreverse : ∀ b ∈ content.reverse, isLineEnd b = true := fun b hb ↦
    h b (List.mem_reverse.1 hb)
  have hscan : scanBack [] 0 content.reverse = ([], content.length) := by
    have hends := scanBack_ends hreverse 0 []
    rw [List.append_nil, List.length_reverse, Nat.zero_add] at hends
    exact hends
  have hlines := lines_of_ends h
  refine ⟨?_, ?_, fun line hline ↦ ?_, fun others b line after hstands ↦ ?_⟩
  · rw [lastLine, lastLineBytes, hscan, hlines, decodeLossy_nil]
    rfl
  · rw [bytesLookedAt, hscan]
  · rw [hlines] at hline
    cases hline
  · rw [hstands.lines_eq] at hlines
    exact absurd hlines (List.append_ne_nil_of_right_ne_nil _ (List.cons_ne_nil line []))

theorem StandsLast.findsLastLine (h : StandsLast before line after content) :
    FindsLastLine content := by
  refine ⟨?_, ?_, fun last hlast ↦ ?_, fun others b last ends hstands others' ↦ ?_⟩
  · rw [lastLine, lastLineBytes, h.scanBack_eq_mk, h.getLast?_lines]
    rfl
  · rw [bytesLookedAt, h.scanBack_eq_mk, h.content_eq, List.length_append, List.length_append]
    split
    · omega
    · next hne =>
      have hlength := List.length_pos_iff.2 hne
      dsimp only
      omega
  · rw [h.getLast?_lines, Option.some.injEq] at hlast
    subst hlast
    exact ⟨before, after, h, congrArg Prod.snd h.scanBack_eq_mk⟩
  · -- Both contents end alike from the line end that stops the scan on.
    have hb := isLineEnd_of_isTerminated_concat hstands.closed
    have hother : StandsLast (others' ++ [b]) last ends (others' ++ [b] ++ last ++ ends) :=
      ⟨rfl, .inr ⟨others', b, rfl, hb⟩, hstands.ne_nil, hstands.unbroken, hstands.ends⟩
    rw [hother.scanBack_eq, hstands.scanBack_eq, scanBack_closed hstands.ne_nil hb,
      scanBack_closed hstands.ne_nil hb]

/-- Whatever bytes a file holds, going backwards finds its last line. -/
theorem lastLine_isFound (content : List UInt8) : FindsLastLine content := by
  rcases exists_standsLast content with hends | ⟨before, line, after, hstands⟩
  · exact findsLastLine_of_ends hends
  · exact hstands.findsLastLine

/-- Ends of lines of both kinds, an empty line, and a byte that is no text. -/
example : scanBack [] 0 [65, 13, 66, 0xFF, 13, 10, 10].reverse = ([66, 0xFF], 6) := by decide

end Telemetry.LogFile
