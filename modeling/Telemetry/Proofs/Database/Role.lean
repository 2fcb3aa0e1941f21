import Mathlib.Data.List.TakeWhile
import Telemetry.Database.Backend

/-!
# Statements that switch to a role

What a server makes of the statement with a role in it. A server takes a statement apart into words,
signs and texts between quotes (`Quoting.tokens?`), and in both products that know roles a quote
that is written twice stands for one. Between the quotes of an identifier nothing else has a meaning
of its own, so every role comes through. Between those of a literal a backslash takes the character
behind it along, and only before the two marks of patterns does it stay. So a role comes through
exactly if each backslash in it stands before such a mark (`Backend.roleStatement_switchesTo_iff`).

A quote behind a backslash is the dangerous case: the first of the two that are written for it is
taken along, and the second one ends the text. What follows in the role is then read as part of the
statement.
-/

namespace Telemetry

/-! ## What a server reads -/

/-- A token of a statement. -/
inductive Token where
  | word (cs : List Char)
  | sign (c : Char)
  /-- A text between quotes: what it stands for. -/
  | quoted (cs : List Char)
  deriving DecidableEq, Repr

/-- The way in which a product puts a text between quotes. -/
structure Quoting where
  quote : Char
  /-- What a backslash stands for together with the character behind it; none where a backslash is
  a character like any other. -/
  escape? : Option (Char → List Char)

namespace Quoting

/-- Puts characters before a text that was read. -/
def prepend (cs : List Char) (r : List Char × List Char) : List Char × List Char :=
  (cs ++ r.1, r.2)

/-- Reads a text behind its opening quote, and gives what follows the closing one. -/
def readQuoted? (g : Quoting) : List Char → Option (List Char × List Char)
  | [] => none
  | c :: cs =>
    if c = g.quote then
      match cs with
      | d :: rest => if d = g.quote then (g.readQuoted? rest).map (prepend [d]) else some ([], cs)
      | [] => some ([], [])
    else if c = '\\' then
      match g.escape?, cs with
      | none, cs => (g.readQuoted? cs).map (prepend [c])
      | some escape, d :: rest => (g.readQuoted? rest).map (prepend (escape d))
      | some _, [] => none
    else (g.readQuoted? cs).map (prepend [c])

theorem map_prepend_eq_some {cs text rest : List Char} {read : Option (List Char × List Char)}
    (h : read.map (prepend cs) = some (text, rest)) :
    ∃ more, read = some (more, rest) ∧ cs ++ more = text := by
  obtain ⟨⟨more, rest'⟩, hread, heq⟩ := Option.map_eq_some_iff.1 h
  obtain ⟨rfl, rfl⟩ := Prod.mk.inj heq
  exact ⟨more, hread, rfl⟩

theorem length_le_of_readQuoted? {g : Quoting} {cs text rest : List Char}
    (h : g.readQuoted? cs = some (text, rest)) : rest.length ≤ cs.length := by
  fun_induction readQuoted? g cs generalizing text with
  | case1 => cases h
  | case2 _ ih =>
    obtain ⟨more, hread, -⟩ := map_prepend_eq_some h
    exact Nat.le_add_right_of_le (Nat.le_add_right_of_le (ih hread))
  | case3 _ _ _ =>
    cases h
    exact Nat.le_succ _
  | case4 =>
    cases h
    exact Nat.zero_le _
  | case5 _ _ _ ih | case8 _ _ _ _ ih =>
    obtain ⟨more, hread, -⟩ := map_prepend_eq_some h
    exact Nat.le_add_right_of_le (ih hread)
  | case6 _ _ _ _ _ ih =>
    obtain ⟨more, hread, -⟩ := map_prepend_eq_some h
    exact Nat.le_add_right_of_le (Nat.le_add_right_of_le (ih hread))
  | case7 => cases h

/-- A character of a word. -/
def isWordChar (c : Char) : Bool := c.isAlphanum || c = '_' || c = '$' || 0x80 ≤ c.toNat

/-- The tokens of a statement, if every quote in it is closed. -/
def tokens? (g : Quoting) (cs : List Char) : Option (List Token) :=
  match cs with
  | [] => some []
  | c :: cs =>
    if c.isWhitespace then g.tokens? cs
    else if c = g.quote then
      match _read : g.readQuoted? cs with
      | none => none
      | some (text, rest) => (g.tokens? rest).map (.quoted text :: ·)
    else if isWordChar c then
      (g.tokens? (cs.dropWhile isWordChar)).map (.word (c :: cs.takeWhile isWordChar) :: ·)
    else (g.tokens? cs).map (.sign c :: ·)
termination_by cs.length
decreasing_by
  · exact Nat.lt_succ_self _
  · exact Nat.lt_succ_of_le (length_le_of_readQuoted? _read)
  · exact Nat.lt_succ_of_le (List.dropWhile_suffix isWordChar).length_le
  · exact Nat.lt_succ_self _

/-- The statement is the two words that switch to a role and the role between quotes, and nothing
else. -/
def SwitchesTo (g : Quoting) (role statement : String) : Prop :=
  g.tokens? statement.toList =
    some [.word "SET".toList, .word "ROLE".toList, .quoted role.toList]

/-- Identifiers, in which a backslash is a character like any other. -/
def identifier : Quoting := ⟨'"', none⟩

/-- The marks of patterns, before which a backslash stays in a literal. -/
def isPatternMark (c : Char) : Bool := c = '%' || c = '_'

/-- The letters that stand for a control character behind a backslash, with its code. -/
def controlLetters : List (Char × Nat) :=
  [('0', 0), ('b', 8), ('t', 9), ('n', 10), ('r', 13), ('Z', 26)]

/-- What a backslash in a literal stands for together with the character behind it: a control
character for some letters, and for most others the character alone. -/
def literalEscape (c : Char) : List Char :=
  if isPatternMark c then ['\\', c]
  else match controlLetters.find? (·.1 == c) with
    | some e => [Char.ofNat e.2]
    | none => [c]

/-- Literals, in which a backslash takes the character behind it along. -/
def literal : Quoting := ⟨'\'', some literalEscape⟩

/-! ## Reading a text with its quotes doubled -/

variable {g : Quoting} {cs name rest text : List Char} {c d : Char}

/-- A text with each quote in it written twice. -/
def doubled (quote : Char) (name : List Char) : List Char :=
  name.flatMap fun c ↦ if c = quote then [quote, quote] else [c]

theorem doubled_cons_self (quote : Char) (name : List Char) :
    doubled quote (quote :: name) = quote :: quote :: doubled quote name := by
  simp [doubled]

theorem doubled_cons_of_ne {quote : Char} (h : c ≠ quote) (name : List Char) :
    doubled quote (c :: name) = c :: doubled quote name := by
  simp [doubled, h]

theorem readQuoted?_twice (g : Quoting) (cs : List Char) :
    g.readQuoted? (g.quote :: g.quote :: cs) = (g.readQuoted? cs).map (prepend [g.quote]) := by
  rw [readQuoted?.eq_def]
  dsimp only
  rw [if_pos rfl, if_pos rfl]

theorem readQuoted?_close (h : ∀ c ∈ cs.head?, c ≠ g.quote) :
    g.readQuoted? (g.quote :: cs) = some ([], cs) := by
  rw [readQuoted?.eq_def]
  dsimp only
  rw [if_pos rfl]
  cases cs with
  | nil => rfl
  | cons c cs => exact if_neg (h c rfl)

theorem readQuoted?_plain (hquote : c ≠ g.quote) (hescape : c = '\\' → g.escape? = none)
    (cs : List Char) : g.readQuoted? (c :: cs) = (g.readQuoted? cs).map (prepend [c]) := by
  rw [readQuoted?.eq_def]
  dsimp only
  rw [if_neg hquote]
  split
  · next hc => rw [hescape hc]
  · rfl

theorem readQuoted?_escape {escape : Char → List Char} (hquote : '\\' ≠ g.quote)
    (hescape : g.escape? = some escape) (c : Char) (cs : List Char) :
    g.readQuoted? ('\\' :: c :: cs) = (g.readQuoted? cs).map (prepend (escape c)) := by
  rw [readQuoted?.eq_def]
  dsimp only
  rw [if_neg hquote, if_pos rfl, hescape]

/-- Where a backslash is a character like any other, a text is read back from between its quotes. -/
theorem readQuoted?_doubled_of_none (hescape : g.escape? = none) (name : List Char) :
    g.readQuoted? (doubled g.quote name ++ [g.quote]) = some (name, []) := by
  induction name with
  | nil => exact readQuoted?_close (by simp)
  | cons c name ih =>
    by_cases hc : c = g.quote
    · rw [hc, doubled_cons_self, List.cons_append, List.cons_append, readQuoted?_twice, ih]
      rfl
    · rw [doubled_cons_of_ne hc, List.cons_append, readQuoted?_plain hc fun _ ↦ hescape, ih]
      rfl

/-! ## Backslashes in a literal -/

/-- Each backslash of a text stands before a mark of patterns. -/
def IsSpared (name : List Char) : Prop :=
  ∀ before behind, name = before ++ '\\' :: behind → ∃ c ∈ behind.head?, isPatternMark c = true

theorem isSpared_nil : IsSpared [] := by
  intro before behind h
  simp at h

theorem isSpared_cons_iff : IsSpared (c :: cs) ↔
    (c = '\\' → ∃ d ∈ cs.head?, isPatternMark d = true) ∧ IsSpared cs := by
  constructor
  · intro h
    constructor
    · rintro rfl
      exact h [] cs rfl
    · intro before behind hcs
      exact h (c :: before) behind (by rw [hcs, List.cons_append])
  · rintro ⟨hfirst, hcs⟩ before behind h
    cases before with
    | nil =>
      obtain ⟨rfl, rfl⟩ := List.cons.inj h
      exact hfirst rfl
    | cons _ before => exact hcs before behind (List.cons.inj h).2

/-- A literal is read character by character, and a backslash with the character behind it. -/
theorem literal_induction {P : List Char → Prop} (nil : P []) (last : P ['\\'])
    (cons : ∀ c cs, c ≠ '\\' → P cs → P (c :: cs))
    (escape : ∀ c cs, P cs → P ('\\' :: c :: cs)) : ∀ cs, P cs
  | [] => nil
  | [c] => if h : c = '\\' then h ▸ last else cons c [] h nil
  | c :: d :: cs =>
    if h : c = '\\' then h ▸ escape d cs (literal_induction nil last cons escape cs)
    else cons c (d :: cs) h (literal_induction nil last cons escape (d :: cs))

theorem literalEscape_of_isPatternMark (h : isPatternMark c = true) :
    literalEscape c = ['\\', c] := if_pos h

/-- Before any other character a backslash does not stay. -/
theorem literalEscape_cases (h : isPatternMark c = false) :
    ∃ d, literalEscape c = [d] ∧ (d = '\\' → c = '\\') := by
  rw [literalEscape, if_neg (Bool.eq_false_iff.1 h)]
  split
  · next e hfind =>
    have hcodes : ∀ e ∈ controlLetters, Char.ofNat e.2 ≠ '\\' := by decide
    exact ⟨Char.ofNat e.2, rfl, fun h ↦ absurd h (hcodes e (List.mem_of_find?_eq_some hfind))⟩
  · exact ⟨c, rfl, id⟩

theorem count_literalEscape_le (c : Char) :
    (literalEscape c).count '\\' ≤ ('\\' :: [c]).count '\\' := by
  by_cases hc : isPatternMark c = true
  · rw [literalEscape_of_isPatternMark hc]
  · obtain ⟨d, hd, hbackslash⟩ := literalEscape_cases (Bool.eq_false_iff.2 hc)
    rw [hd, List.count_cons_self]
    exact List.count_le_length.trans (Nat.le_add_left 1 _)

/-- No more backslashes are read than are written. -/
theorem count_le_of_readQuoted? (h : literal.readQuoted? cs = some (text, rest)) :
    text.count '\\' ≤ cs.count '\\' := by
  fun_induction readQuoted? literal cs generalizing text with
  | case1 => cases h
  | case2 rest ih =>
    obtain ⟨more, hread, rfl⟩ := map_prepend_eq_some h
    have hquote : literal.quote ≠ '\\' := by decide
    rw [List.singleton_append, List.count_cons_of_ne hquote, List.count_cons_of_ne hquote,
      List.count_cons_of_ne hquote]
    exact ih hread
  | case3 _ _ _ =>
    cases h
    exact Nat.zero_le _
  | case4 =>
    cases h
    exact Nat.zero_le _
  | case5 cs hnone =>
    cases hnone
  | case6 escape d rest hescape _ ih =>
    obtain ⟨more, hread, rfl⟩ := map_prepend_eq_some h
    cases hescape
    rw [List.count_append, ← List.singleton_append (l := rest), ← List.cons_append,
      List.count_append]
    exact Nat.add_le_add (count_literalEscape_le d) (ih hread)
  | case7 => cases h
  | case8 c cs _ _ ih =>
    obtain ⟨more, hread, rfl⟩ := map_prepend_eq_some h
    rw [List.count_append, ← List.singleton_append (l := cs), List.count_append]
    exact Nat.add_le_add_left (ih hread) _

theorem backslash_ne_quote : '\\' ≠ literal.quote := by decide

theorem count_doubled (name : List Char) :
    (doubled literal.quote name).count '\\' = name.count '\\' := by
  induction name with
  | nil => rfl
  | cons c name ih =>
    by_cases hc : c = literal.quote
    · subst hc
      have hne : literal.quote ≠ '\\' := backslash_ne_quote.symm
      rw [doubled_cons_self, List.count_cons_of_ne hne, List.count_cons_of_ne hne,
        List.count_cons_of_ne hne, ih]
    · rw [doubled_cons_of_ne hc, List.count_cons, List.count_cons, ih]

/-- What stands before no backslash is read first, in whatever way it is written. -/
theorem readQuoted?_doubled_cons (h : c ≠ '\\') (name more : List Char) :
    literal.readQuoted? (doubled literal.quote (c :: name) ++ more) =
      (literal.readQuoted? (doubled literal.quote name ++ more)).map (prepend [c]) := by
  by_cases hc : c = literal.quote
  · rw [hc, doubled_cons_self]
    exact readQuoted?_twice literal _
  · rw [doubled_cons_of_ne hc]
    exact readQuoted?_plain hc (fun hbackslash ↦ absurd hbackslash h) _

/-- A character that is no quote is taken along by the backslash before it. -/
theorem readQuoted?_doubled_escape (h : c ≠ literal.quote) (name more : List Char) :
    literal.readQuoted? (doubled literal.quote ('\\' :: c :: name) ++ more) =
      (literal.readQuoted? (doubled literal.quote name ++ more)).map
        (prepend (literalEscape c)) := by
  rw [doubled_cons_of_ne backslash_ne_quote, doubled_cons_of_ne h]
  exact readQuoted?_escape backslash_ne_quote rfl c _

/-- A text is read back from between its quotes if its backslashes are spared. -/
theorem readQuoted?_doubled_of_isSpared (h : IsSpared name) :
    literal.readQuoted? (doubled literal.quote name ++ [literal.quote]) = some (name, []) := by
  induction name using literal_induction with
  | nil => exact readQuoted?_close (by simp)
  | last =>
    obtain ⟨c, hc, -⟩ := (isSpared_cons_iff.1 h).1 rfl
    cases hc
  | cons c cs hc ih =>
    rw [readQuoted?_doubled_cons hc, ih (isSpared_cons_iff.1 h).2]
    rfl
  | escape c cs ih =>
    obtain ⟨hfirst, hcs⟩ := isSpared_cons_iff.1 h
    obtain ⟨d, hd, hmark⟩ := hfirst rfl
    obtain rfl : c = d := Option.some.inj hd
    have hquote : c ≠ literal.quote := by
      rintro rfl
      exact absurd hmark (by decide)
    rw [readQuoted?_doubled_escape hquote, ih (isSpared_cons_iff.1 hcs).2,
      literalEscape_of_isPatternMark hmark]
    rfl

/-- A backslash is lost behind which no mark of patterns stands: either the character behind it is
read in its place, or, of two backslashes, only one is. -/
theorem isSpared_of_readQuoted?
    (h : literal.readQuoted? (doubled literal.quote name ++ [literal.quote]) = some (name, rest)) :
    IsSpared name := by
  induction name using literal_induction with
  | nil => exact isSpared_nil
  | last =>
    rw [doubled_cons_of_ne backslash_ne_quote] at h
    change literal.readQuoted? ['\\', literal.quote] = _ at h
    rw [readQuoted?_escape backslash_ne_quote rfl] at h
    cases h
  | cons c cs hc ih =>
    rw [readQuoted?_doubled_cons hc] at h
    obtain ⟨more, hread, heq⟩ := map_prepend_eq_some h
    obtain rfl : more = cs := (List.cons.inj heq).2
    exact isSpared_cons_iff.2 ⟨fun hbackslash ↦ absurd hbackslash hc, ih hread⟩
  | escape c cs ih =>
    by_cases hquote : c = literal.quote
    · -- The backslash takes along the first of the two quotes, which is then read in its place.
      rw [doubled_cons_of_ne backslash_ne_quote, hquote, doubled_cons_self, List.cons_append,
        List.cons_append, readQuoted?_escape backslash_ne_quote rfl] at h
      obtain ⟨more, -, heq⟩ := map_prepend_eq_some h
      exact absurd (List.cons.inj heq).1 (by decide)
    · rw [readQuoted?_doubled_escape hquote] at h
      obtain ⟨more, hread, heq⟩ := map_prepend_eq_some h
      by_cases hmark : isPatternMark c = true
      · rw [literalEscape_of_isPatternMark hmark] at heq
        obtain rfl : more = cs := (List.cons.inj (List.cons.inj heq).2).2
        have hc : c ≠ '\\' := by
          rintro rfl
          exact absurd hmark (by decide)
        refine isSpared_cons_iff.2 ⟨fun _ ↦ ⟨c, rfl, hmark⟩, ?_⟩
        exact isSpared_cons_iff.2 ⟨fun hbackslash ↦ absurd hbackslash hc, ih hread⟩
      · obtain ⟨d, hd, hbackslash⟩ := literalEscape_cases (Bool.eq_false_iff.2 hmark)
        rw [hd, List.singleton_append] at heq
        obtain ⟨rfl, rfl⟩ := List.cons.inj heq
        -- The second of two backslashes is missing from what was read.
        have hle := count_le_of_readQuoted? hread
        rw [hbackslash rfl, List.count_append, count_doubled, List.count_cons_self] at hle
        have hnone : [literal.quote].count '\\' = 0 := by decide
        omega

/-! ## The statement -/

theorem tokens?_blank (h : c.isWhitespace = true) (cs : List Char) :
    g.tokens? (c :: cs) = g.tokens? cs := by
  rw [tokens?.eq_def]
  dsimp only
  rw [if_pos h]

theorem tokens?_word (hc : isWordChar c = true) (hblank : c.isWhitespace = false)
    (hquote : c ≠ g.quote) (cs : List Char) : g.tokens? (c :: cs) =
      (g.tokens? (cs.dropWhile isWordChar)).map (.word (c :: cs.takeWhile isWordChar) :: ·) := by
  rw [tokens?.eq_def]
  dsimp only
  rw [if_neg (Bool.eq_false_iff.1 hblank), if_neg hquote, if_pos hc]

theorem tokens?_quoted (hblank : g.quote.isWhitespace = false) (cs : List Char) :
    g.tokens? (g.quote :: cs) = (g.readQuoted? cs).bind fun r ↦
      (g.tokens? r.2).map (.quoted r.1 :: ·) := by
  rw [tokens?.eq_def]
  dsimp only
  rw [if_neg (Bool.eq_false_iff.1 hblank), if_pos rfl]
  split
  · next hread => rw [hread]; rfl
  · next text rest hread => rw [hread]; rfl

/-- The statement is taken apart into its two words and what the role between quotes is read as. -/
theorem tokens?_statement (hword : isWordChar g.quote = false)
    (hblank : g.quote.isWhitespace = false) (cs : List Char) :
    g.tokens? ("SET ROLE ".toList ++ g.quote :: cs) = (g.readQuoted? cs).bind fun r ↦
      (g.tokens? r.2).map fun tokens ↦
        .word "SET".toList :: .word "ROLE".toList :: .quoted r.1 :: tokens := by
  have hne : ∀ c, isWordChar c = true → c ≠ g.quote := by
    rintro c hc rfl
    exact absurd hc (Bool.eq_false_iff.1 hword)
  change g.tokens? ('S' :: 'E' :: 'T' :: ' ' :: 'R' :: 'O' :: 'L' :: 'E' :: ' ' ::
    g.quote :: cs) = _
  rw [tokens?_word (by decide) (by decide) (hne 'S' (by decide))]
  change (g.tokens? (' ' :: 'R' :: 'O' :: 'L' :: 'E' :: ' ' :: g.quote :: cs)).map
    (.word "SET".toList :: ·) = _
  rw [tokens?_blank (by decide), tokens?_word (by decide) (by decide) (hne 'R' (by decide))]
  change ((g.tokens? (' ' :: g.quote :: cs)).map (.word "ROLE".toList :: ·)).map
    (.word "SET".toList :: ·) = _
  rw [tokens?_blank (by decide), tokens?_quoted hblank]
  cases g.readQuoted? cs with
  | none => rfl
  | some r =>
    simp only [Option.bind_some, Option.map_map]
    rfl

/-- The statement switches to a role exactly if the role is read back from between its quotes, with
nothing behind them. -/
theorem switchesTo_iff (hword : isWordChar g.quote = false)
    (hblank : g.quote.isWhitespace = false) (role : String) :
    g.SwitchesTo role
        (String.ofList ("SET ROLE ".toList ++ Backend.quotedName g.quote role.toList)) ↔
      ∃ rest, g.readQuoted? (doubled g.quote role.toList ++ [g.quote]) = some (role.toList, rest) ∧
        g.tokens? rest = some [] := by
  have hquoted : Backend.quotedName g.quote role.toList =
      g.quote :: (doubled g.quote role.toList ++ [g.quote]) := rfl
  rw [SwitchesTo, String.toList_ofList, hquoted, tokens?_statement hword hblank,
    Option.bind_eq_some_iff]
  constructor
  · rintro ⟨⟨text, rest⟩, hread, htokens⟩
    obtain ⟨tokens, hrest, heq⟩ := Option.map_eq_some_iff.1 htokens
    simp only [List.cons.injEq, Token.quoted.injEq, true_and] at heq
    exact ⟨rest, heq.1 ▸ hread, heq.2 ▸ hrest⟩
  · rintro ⟨rest, hread, hrest⟩
    exact ⟨_, hread, by rw [hrest]; rfl⟩

end Quoting

namespace Backend

open Quoting

/-- Every role comes through as an identifier. As a literal it comes through exactly if each
backslash in it stands before a mark of patterns. -/
theorem roleStatement_switchesTo_iff (role : String) :
    (∃ statement, postgres.roleStatement role = some statement ∧
      identifier.SwitchesTo role statement) ∧
    ∃ statement, mysql.roleStatement role = some statement ∧
      (literal.SwitchesTo role statement ↔ IsSpared role.toList) := by
  constructor
  · refine ⟨_, rfl, (switchesTo_iff (by decide) (by decide) role).2 ⟨[], ?_, ?_⟩⟩
    · exact readQuoted?_doubled_of_none rfl role.toList
    · rw [tokens?.eq_def]
  · refine ⟨_, rfl, (switchesTo_iff (by decide) (by decide) role).trans ?_⟩
    constructor
    · rintro ⟨rest, hread, -⟩
      exact isSpared_of_readQuoted? hread
    · intro hspared
      exact ⟨[], readQuoted?_doubled_of_isSpared hspared, by rw [tokens?.eq_def]⟩

/-- The role between these quotes begins with a backslash and a quote: with them the text ends, and
all that follows in the role is read as part of the statement. -/
example : literal.readQuoted? "\\'',admin -- '".toList = some (['\''], ",admin -- '".toList) := by
  decide +kernel

/-- Of a role that ends with a backslash nothing is read, since the closing quote is taken along. -/
theorem not_switchesTo_backslash :
    ¬ ∀ role, ∃ statement, mysql.roleStatement role = some statement ∧
      literal.SwitchesTo role statement := by
  intro h
  obtain ⟨statement, hstatement, hswitches⟩ := h "dba\\"
  obtain rfl : "SET ROLE 'dba\\'" = statement := Option.some.inj hstatement
  rw [SwitchesTo] at hswitches
  have hnone : literal.tokens? "SET ROLE 'dba\\'".toList = none := by decide +kernel
  rw [hnone] at hswitches
  cases hswitches

end Backend

end Telemetry
