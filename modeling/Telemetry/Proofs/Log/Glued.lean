import Mathlib.Data.List.TakeWhile
import Telemetry.Proofs.Format.Leftover
import Telemetry.Proofs.Log.Record

/-!
# A record behind an open line

A record that is written where a line is still open becomes a part of that line. With nothing but
blanks before it, it is read all the same. With anything else before it, the line is no record
(`ofLine?_append_line`): a value that begins before the record leaves the record over or breaks it
at its first quote, and a line with something left over is none.
-/

namespace Telemetry.LogRecord

/-! ## The line of a record is the line of an object -/

theorem readValue?_quoted (strict : Bool) (fuel : Nat) (cs rest : List Char) :
    Json.readValue? strict (fuel + 1) (Json.quoted cs ++ rest) =
      some (.string (String.ofList cs), rest) := by
  have htext := Json.readText?_quoted strict cs rest
  rw [Json.quoted, List.cons_append, List.cons_append] at htext
  rw [Json.readValue?.eq_def]
  dsimp only
  rw [skipSpace_quoted, Json.quoted, List.cons_append, List.cons_append]
  simp only
  rw [htext, Option.map_some]

theorem skipSpace_member (key value : String) (rest : List Char) :
    Json.skipSpace (member key value ++ rest) = member key value ++ rest := by
  rw [member, List.append_assoc, skipSpace_quoted]

section Members

variable {strict : Bool} {fuel : Nat} {acc ms : List (String × Json)} {key value : String}
  {rest out : List Char}

/-- A member of a line is read in one turn; what happens then depends on the character behind it. -/
theorem readMembers?_member {c : Char} (hc : Json.isSpace c = false)
    (hread : Json.readMembers? strict fuel acc (member key value ++ c :: rest) =
      some (ms, out)) :
    (∃ fuel' acc', c = ',' ∧ Json.readMembers? strict fuel' acc' rest = some (ms, out)) ∨
      c = '\x7d' ∧ out = rest := by
  cases fuel with
  | zero => cases hread
  | succ fuel =>
    rw [member, List.append_assoc, List.cons_append, Json.readMembers?.eq_def] at hread
    dsimp only at hread
    rw [skipSpace_quoted, Json.readText?_quoted] at hread
    dsimp only at hread
    rw [skipSpace_cons_of_not_isSpace (by decide)] at hread
    simp only at hread
    cases fuel with
    | zero => cases hread
    | succ fuel =>
      rw [readValue?_quoted] at hread
      dsimp only at hread
      rw [skipSpace_cons_of_not_isSpace hc] at hread
      split at hread
      · rename_i heq
        obtain ⟨rfl, rfl⟩ := List.cons.inj heq
        exact .inl ⟨_, _, rfl, hread⟩
      · rename_i heq
        obtain ⟨rfl, rfl⟩ := List.cons.inj heq
        cases hread
        exact .inr ⟨rfl, rfl⟩
      · cases hread

theorem readMembers?_of_comma
    (hread : Json.readMembers? strict fuel acc (member key value ++ ',' :: rest) =
      some (ms, out)) :
    ∃ fuel' acc', Json.readMembers? strict fuel' acc' rest = some (ms, out) := by
  rcases readMembers?_member (by decide) hread with ⟨fuel', acc', -, h⟩ | ⟨hc, -⟩
  · exact ⟨fuel', acc', h⟩
  · exact absurd hc (by decide)

theorem rest_of_brace
    (hread : Json.readMembers? strict fuel acc (member key value ++ '\x7d' :: rest) =
      some (ms, out)) : out = rest := by
  rcases readMembers?_member (by decide) hread with ⟨-, -, hc, -⟩ | ⟨-, h⟩
  · exact absurd hc (by decide)
  · exact h

end Members

theorem isObjectLine_line (r : LogRecord) : Json.IsObjectLine r.line where
  opens := by
    rw [line_eq, member]
    exact ⟨_, rfl⟩
  whole strict fuel v rest hread := by
    cases fuel with
    | zero => cases hread
    | succ fuel =>
      rw [line_eq, Json.readValue?.eq_def] at hread
      dsimp only at hread
      rw [skipSpace_cons_of_not_isSpace (by decide)] at hread
      simp only at hread
      rw [skipSpace_member] at hread
      split at hread
      · rename_i heq
        exact absurd (List.head_eq_of_cons_eq heq) (by decide)
      · obtain ⟨⟨ms, out⟩, hmembers, heq⟩ := Option.map_eq_some_iff.1 hread
        obtain ⟨-, rfl⟩ := Prod.mk.inj heq
        obtain ⟨_, _, h₁⟩ := readMembers?_of_comma hmembers
        obtain ⟨_, _, h₂⟩ := readMembers?_of_comma h₁
        obtain ⟨_, _, h₃⟩ := readMembers?_of_comma h₂
        exact rest_of_brace h₃

/-! ## What the reader of a record leaves -/

section Leftover

variable {line cs rest : List Char}

theorem remains_of_readField? (hline : Json.IsObjectLine line) {present s : Option String}
    (h : line <:+ cs) (hread : readField? present cs = some (s, rest)) :
    Json.Remains line rest := by
  rw [readField?.eq_def] at hread
  split at hread
  · cases hread
  · obtain ⟨⟨text, behind⟩, htext, heq⟩ := Option.map_eq_some_iff.1 hread
    obtain ⟨-, rfl⟩ := Prod.mk.inj heq
    exact Json.remains_of_readText? hline (hline.suffix_skipSpace h) htext

theorem remains_of_readMember? (hline : Json.IsObjectLine line) {fuel : Nat} {p p' : Partial}
    {key : String} (h : line <:+ cs) (hread : readMember? fuel p key cs = some (p', rest)) :
    Json.Remains line rest := by
  have hfield {present : Option String} {f : Option String × List Char → Partial × List Char}
      (hread : (readField? present cs).map f = some (p', rest)) (hf : ∀ q, (f q).2 = q.2) :
      Json.Remains line rest := by
    obtain ⟨⟨s, behind⟩, hs, heq⟩ := Option.map_eq_some_iff.1 hread
    have hrest : behind = rest := (hf _).symm.trans (congrArg Prod.snd heq)
    exact hrest ▸ remains_of_readField? hline h hs
  rw [readMember?] at hread
  split at hread
  · exact hfield hread fun _ ↦ rfl
  split at hread
  · exact hfield hread fun _ ↦ rfl
  split at hread
  · exact hfield hread fun _ ↦ rfl
  split at hread
  · exact hfield hread fun _ ↦ rfl
  · obtain ⟨⟨v, behind⟩, hvalue, heq⟩ := Option.map_eq_some_iff.1 hread
    obtain ⟨-, rfl⟩ := Prod.mk.inj heq
    exact (Json.leavesLine hline false fuel).value _ _ _ h hvalue

/-- An object that begins before the line leaves it over. -/
theorem suffix_of_readMembers? (hline : Json.IsObjectLine line) {fuel : Nat} {p p' : Partial}
    (h : line <:+ cs) (hread : readMembers? fuel p cs = some (p', rest)) : line <:+ rest := by
  induction fuel generalizing p cs with
  | zero => cases hread
  | succ fuel ih =>
    rw [readMembers?.eq_def] at hread
    dsimp only at hread
    split at hread
    · cases hread
    · rename_i hkey
      have hremains := Json.remains_of_readText? hline (hline.suffix_skipSpace h) hkey
      split at hread
      · rename_i htoken
        have hmore := hremains.suffix_of_token hline htoken (by decide) (by decide)
        split at hread
        · cases hread
        · rename_i hmember
          have hremains := remains_of_readMember? hline hmore hmember
          split at hread
          · rename_i htoken
            exact ih (hremains.suffix_of_token hline htoken (by decide) (by decide)) hread
          · rename_i htoken
            cases hread
            exact hremains.suffix_of_token hline htoken (by decide) (by decide)
          · cases hread
      · cases hread

theorem suffix_of_readElement? (hline : Json.IsObjectLine line) {closing : Char} {s : String}
    (hbrace : closing ≠ '\x7b') (hletter : closing ≠ 't') (h : line <:+ cs)
    (hread : readElement? closing cs = some (s, rest)) : line <:+ rest := by
  rw [readElement?.eq_def] at hread
  split at hread
  · cases hread
  · rename_i htext
    have hremains := Json.remains_of_readText? hline (hline.suffix_skipSpace h) htext
    split at hread
    · rename_i htoken
      split at hread
      · rename_i hclosing
        obtain ⟨-, rfl⟩ := Prod.mk.inj (Option.some.inj hread)
        exact hremains.suffix_of_token hline htoken (hclosing ▸ hbrace) (hclosing ▸ hletter)
      · cases hread
    · cases hread

/-- An array that begins before the line leaves it over. -/
theorem suffix_of_readElements? (hline : Json.IsObjectLine line) {r : LogRecord} (h : line <:+ cs)
    (hread : readElements? cs = some (r, rest)) : line <:+ rest := by
  have hcomma {cs rest : List Char} {s : String} (h : line <:+ cs)
      (hread : readElement? ',' cs = some (s, rest)) : line <:+ rest :=
    suffix_of_readElement? hline (by decide) (by decide) h hread
  simp only [readElements?, Option.bind_eq_bind, Option.bind_eq_some_iff, Option.pure_def,
    Option.some.injEq, Prod.mk.injEq] at hread
  obtain ⟨⟨_, cs₁⟩, h₁, ⟨_, cs₂⟩, h₂, ⟨_, cs₃⟩, h₃, ⟨_, cs₄⟩, h₄, -, rfl⟩ := hread
  exact suffix_of_readElement? hline (by decide) (by decide)
    (hcomma (hcomma (hcomma h h₁) h₂) h₃) h₄

/-- No record begins before the line and ends inside it. -/
theorem suffix_of_readRecord? (hline : Json.IsObjectLine line) {r : LogRecord} {c : Char}
    (hc : Json.isSpace c = false) (h : line <:+ cs)
    (hread : readRecord? (c :: cs) = some (r, rest)) : line <:+ rest := by
  rw [readRecord?, skipSpace_cons_of_not_isSpace hc] at hread
  split at hread
  · rename_i heq
    obtain ⟨-, rfl⟩ := List.cons.inj heq
    split at hread
    · rename_i hmembers
      obtain ⟨record, -, heq⟩ := Option.map_eq_some_iff.1 hread
      obtain ⟨-, rfl⟩ := Prod.mk.inj heq
      exact suffix_of_readMembers? hline h hmembers
    · cases hread
  · rename_i heq
    obtain ⟨-, rfl⟩ := List.cons.inj heq
    exact suffix_of_readElements? hline h hread
  · cases hread

end Leftover

/-! ## The open line -/

theorem not_isSpace_of_not_isBlank {c : Char} (h : Text.isBlank c = false) :
    Json.isSpace c = false := by
  refine Bool.eq_false_iff.2 fun hspace ↦ ?_
  simp only [Json.isSpace, Bool.or_eq_true, decide_eq_true_eq, or_assoc] at hspace
  rcases hspace with rfl | rfl | rfl | rfl <;> cases h

theorem trimChars_append_line (before : List Char) (r : LogRecord) :
    Text.trimChars (before ++ r.line) = (before ++ r.line).dropWhile Text.isBlank := by
  have hlast : r.line.getLast? = some '\x7d' := List.getLast?_concat
  have hend : ((before ++ r.line).dropWhile Text.isBlank).getLast? = some '\x7d' := by
    rw [List.dropWhile_append]
    split
    · rw [line_eq, List.dropWhile_cons_of_neg (by decide), ← line_eq, hlast]
    · rw [List.getLast?_append, hlast, Option.some_or]
  exact Text.dropRightWhile_of_getLast hend (by decide)

/-- With nothing but blanks before it, a record is read. -/
theorem ofLine?_blank_append_line {before : List Char} (h : ∀ c ∈ before, Text.isBlank c = true)
    (r : LogRecord) : ofLine? (Text.trimChars (before ++ r.line)) = some r := by
  rw [trimChars_append_line, List.dropWhile_append_of_pos h, line_eq,
    List.dropWhile_cons_of_neg (by decide), ← line_eq, ofLine?_line]

/-- With anything else before it, the line is no record. -/
theorem ofLine?_append_line {before : List Char} (h : ¬ ∀ c ∈ before, Text.isBlank c = true)
    (r : LogRecord) : ofLine? (Text.trimChars (before ++ r.line)) = none := by
  cases hdrop : before.dropWhile Text.isBlank with
  | nil => exact absurd (List.dropWhile_eq_nil_iff.1 hdrop) h
  | cons c cs =>
    have hc : Text.isBlank c = false := by
      have hhead := List.head?_dropWhile_not Text.isBlank before
      rw [hdrop] at hhead
      simpa using hhead
    rw [trimChars_append_line, List.dropWhile_append, hdrop, if_neg (by simp), List.cons_append,
      ofLine?]
    split
    · rename_i hread
      have hleft := suffix_of_readRecord? (isObjectLine_line r) (not_isSpace_of_not_isBlank hc)
        (List.suffix_append cs r.line) hread
      -- What is left over begins with the brace of the record, at the latest.
      have hskip := (isObjectLine_line r).suffix_skipSpace hleft
      rw [if_neg]
      rw [List.isEmpty_iff]
      intro hempty
      rw [hempty, List.suffix_nil, line_eq] at hskip
      cases hskip
    · rfl

end Telemetry.LogRecord
