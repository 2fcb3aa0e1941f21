import Telemetry.Exposition
import Telemetry.Proofs.Number.Text
import Telemetry.Proofs.Text.Prefix
import Telemetry.Proofs.Text.Search

/-!
# Lines of the text exposition

What a scraper takes from a page. Each line is a comment with the help text or the type of a metric,
or a sample: a name, labels between braces, a blank and a number. A name is made of letters, digits,
underscores and colons and does not begin with a digit. In the value of a label a backslash stands
before a quote, before another backslash, and before the letter that means a line end.

A line that is written for names of that kind is read back to what it was written for, whatever the
values of its labels are (`reads_sample`). A text that consists of such lines is read line by line,
and what follows it is read as if it stood alone (`Reads`).
-/

namespace Telemetry.Exposition

/-! ## What a scraper reads -/

/-- A character that a name may begin with. -/
def isNameStart (c : Char) : Bool := c.isAlpha || c = '_' || c = ':'

/-- A character of a name. -/
def isNameChar (c : Char) : Bool := isNameStart c || c.isDigit

/-- A name of a metric. -/
def isMetricName : List Char → Bool
  | [] => false
  | c :: cs => isNameStart c && cs.all isNameChar

/-- A name of a label, which holds no colon. -/
def isLabelName (cs : List Char) : Bool := isMetricName cs && !cs.contains ':'

/-- A sample: its name, the names and values of its labels, and its number as it is written. -/
structure Sample where
  name : List Char
  labels : List (List Char × List Char)
  value : List Char
  deriving DecidableEq, Repr

/-- A line. -/
inductive Line where
  | help (name : List Char)
  | type (name : List Char) (kind : MetricKind)
  | sample (s : Sample)
  deriving DecidableEq, Repr

/-- The name that a line is about. -/
def Line.name : Line → List Char
  | .help name | .type name _ => name
  | .sample s => s.name

/-- What a character behind a backslash means. -/
def unescape? (c : Char) : Option Char :=
  if c = 'n' then some '\n' else if c = '"' || c = '\\' then some c else none

/-- Puts a character before what was read. -/
def prepend (c : Char) (r : List Char × List Char) : List Char × List Char := (c :: r.1, r.2)

/-- Reads the value of a label up to its closing quote. `escaped` says whether a backslash stands
before the text. -/
def readValue? (escaped : Bool) : List Char → Option (List Char × List Char)
  | [] => none
  | c :: cs =>
    if escaped then (unescape? c).bind fun d => (readValue? false cs).map (prepend d)
    else if c = '"' then some ([], cs)
    else if c = '\\' then readValue? true cs
    else (readValue? false cs).map (prepend c)

/-- Reads a label. -/
def readLabel? (cs : List Char) : Option ((List Char × List Char) × List Char) :=
  let name := cs.takeWhile isNameChar
  match cs.dropWhile isNameChar with
  | '=' :: '"' :: rest =>
    if isLabelName name then (readValue? false rest).map fun r => ((name, r.1), r.2) else none
  | _ => none

theorem length_of_readValue? {escaped : Bool} {cs rest value : List Char}
    (h : readValue? escaped cs = some (value, rest)) : rest.length ≤ cs.length := by
  induction cs generalizing escaped value with
  | nil => cases h
  | cons c cs ih =>
    have hmap {d : Char} (h : (readValue? false cs).map (prepend d) = some (value, rest)) :
        rest.length ≤ (c :: cs).length := by
      obtain ⟨r, hr, h⟩ := Option.map_eq_some_iff.1 h
      obtain ⟨-, rfl⟩ := Prod.mk.inj h
      exact Nat.le_succ_of_le (ih hr)
    rw [readValue?] at h
    split at h
    · obtain ⟨d, -, h⟩ := Option.bind_eq_some_iff.1 h
      exact hmap h
    · split at h
      · obtain ⟨-, rfl⟩ := Prod.mk.inj (Option.some.inj h)
        exact Nat.le_succ _
      · split at h
        · exact Nat.le_succ_of_le (ih h)
        · exact hmap h

theorem length_of_readLabel? {cs rest : List Char} {label : List Char × List Char}
    (h : readLabel? cs = some (label, rest)) : rest.length < cs.length := by
  unfold readLabel? at h
  dsimp only at h
  split at h
  · next more hdrop =>
    split at h
    · obtain ⟨r, hr, h⟩ := Option.map_eq_some_iff.1 h
      obtain ⟨-, rfl⟩ := Prod.mk.inj h
      have hmore := length_of_readValue? hr
      have hle := List.length_dropWhile_le isNameChar cs
      rw [hdrop, List.length_cons, List.length_cons] at hle
      omega
    · cases h
  · cases h

/-- Reads labels up to the closing brace. -/
def readLabels? (cs : List Char) : Option (List (List Char × List Char) × List Char) :=
  match _hread : readLabel? cs with
  | some (label, ',' :: rest) => (readLabels? rest).map fun r => (label :: r.1, r.2)
  | some (label, '\x7d' :: rest) => some ([label], rest)
  | _ => none
termination_by cs.length
decreasing_by
  have := length_of_readLabel? _hread
  rw [List.length_cons] at this
  omega

/-- Reads a number behind a blank. -/
def readNumber? : List Char → Option (List Char)
  | ' ' :: cs => if (Decimal.readChars? cs).isSome then some cs else none
  | _ => none

/-- Reads a sample. -/
def readSample? (cs : List Char) : Option Sample :=
  let name := cs.takeWhile isNameChar
  if isMetricName name then
    match cs.dropWhile isNameChar with
    | '\x7b' :: rest =>
      (readLabels? rest).bind fun r => (readNumber? r.2).map fun value => ⟨name, r.1, value⟩
    | rest => (readNumber? rest).map fun value => ⟨name, [], value⟩
  else none

/-- Reads a name and what stands behind a blank after it. -/
def readComment? (cs : List Char) : Option (List Char × List Char) :=
  let name := cs.takeWhile isNameChar
  match cs.dropWhile isNameChar with
  | ' ' :: rest => if isMetricName name then some (name, rest) else none
  | _ => none

/-- Reads the word for a kind. -/
def readKind? (cs : List Char) : Option MetricKind :=
  [.gauge, .counter, .histogram].find? fun kind => kind.text.toList = cs

/-- Reads a line. -/
def readLine? (cs : List Char) : Option Line :=
  match Text.after? "# HELP ".toList cs with
  | some rest => (readComment? rest).map fun r => .help r.1
  | none =>
    match Text.after? "# TYPE ".toList cs with
    | some rest => (readComment? rest).bind fun r => (readKind? r.2).map (.type r.1)
    | none => (readSample? cs).map .sample

/-- The lines of a page. -/
def lines : List Char → List (List Char)
  | [] => []
  | c :: cs =>
    if c = '\n' then [] :: lines cs
    else match lines cs with
      | [] => [[c]]
      | line :: more => (c :: line) :: more

/-- Reads a page, if every line of it can be read. -/
def readPage? (page : List Char) : Option (List Line) := (lines page).mapM readLine?

/-! ## Names that are read -/

theorem isMetricName_of_readSample? {cs : List Char} {s : Sample} (h : readSample? cs = some s) :
    isMetricName s.name = true := by
  unfold readSample? at h
  dsimp only at h
  split at h
  · next hname =>
    split at h
    · obtain ⟨r, -, h⟩ := Option.bind_eq_some_iff.1 h
      obtain ⟨value, -, rfl⟩ := Option.map_eq_some_iff.1 h
      exact hname
    · obtain ⟨value, -, rfl⟩ := Option.map_eq_some_iff.1 h
      exact hname
  · cases h

/-- What stands before the blank of a comment is a name, and it is the one that is read. -/
theorem of_readComment? {cs : List Char} {r : List Char × List Char}
    (h : readComment? cs = some r) : cs = r.1 ++ ' ' :: r.2 ∧ isMetricName r.1 = true := by
  unfold readComment? at h
  dsimp only at h
  split at h
  · next rest hdrop =>
    split at h
    · next hname =>
      obtain rfl := Option.some.inj h
      refine ⟨?_, hname⟩
      rw [← hdrop, List.takeWhile_append_dropWhile]
    · cases h
  · cases h

/-- A line is read only if it is about a name. -/
theorem isMetricName_of_readLine? {cs : List Char} {line : Line}
    (h : readLine? cs = some line) : isMetricName line.name = true := by
  unfold readLine? at h
  split at h
  · obtain ⟨r, hr, rfl⟩ := Option.map_eq_some_iff.1 h
    exact (of_readComment? hr).2
  · split at h
    · obtain ⟨r, hr, h⟩ := Option.bind_eq_some_iff.1 h
      obtain ⟨kind, -, rfl⟩ := Option.map_eq_some_iff.1 h
      exact (of_readComment? hr).2
    · obtain ⟨s, hs, rfl⟩ := Option.map_eq_some_iff.1 h
      exact isMetricName_of_readSample? hs

/-- A page is read line by line. -/
theorem map_readLine?_lines {text : List Char} {page : List Line}
    (h : readPage? text = some page) : (lines text).map readLine? = page.map some := by
  unfold readPage? at h
  generalize lines text = ls at h ⊢
  induction ls generalizing page with
  | nil =>
    cases h
    rfl
  | cons cs ls ih =>
    rw [List.mapM_cons] at h
    obtain ⟨line, hline, h⟩ := Option.bind_eq_some_iff.1 h
    obtain ⟨rest, hrest, h⟩ := Option.bind_eq_some_iff.1 h
    obtain rfl := Option.some.inj h
    rw [List.map_cons, List.map_cons, hline, ih hrest]

/-- Every line of a page that is read is about a name. -/
theorem isMetricName_of_mem_page {text : List Char} {page : List Line}
    (h : readPage? text = some page) : ∀ line ∈ page, isMetricName line.name = true := by
  intro line hline
  have hmem : some line ∈ (lines text).map readLine? :=
    map_readLine?_lines h ▸ List.mem_map_of_mem hline
  obtain ⟨cs, -, hread⟩ := List.mem_map.1 hmem
  exact isMetricName_of_readLine? hread

/-! ## Texts that are read line by line -/

theorem lines_append_cons {line : List Char} (h : '\n' ∉ line) (rest : List Char) :
    lines (line ++ '\n' :: rest) = line :: lines rest := by
  induction line with
  | nil => rfl
  | cons c line ih =>
    rw [List.mem_cons, not_or] at h
    obtain ⟨hc, hline⟩ := h
    rw [List.cons_append, lines, if_neg (Ne.symm hc), ih hline]

theorem lines_concat_ne_nil (cs : List Char) : lines (cs ++ ['\n']) ≠ [] := by
  cases cs with
  | nil => exact List.cons_ne_nil _ _
  | cons c cs =>
    rw [List.cons_append, lines]
    split
    · exact List.cons_ne_nil _ _
    · split <;> exact List.cons_ne_nil _ _

/-- What follows a line end is read as if it stood alone. -/
theorem lines_append_lineEnd (cs rest : List Char) :
    lines (cs ++ '\n' :: rest) = lines (cs ++ ['\n']) ++ lines rest := by
  induction cs with
  | nil => rfl
  | cons c cs ih =>
    rw [List.cons_append, List.cons_append, lines, lines, ih]
    by_cases hc : c = '\n'
    · rw [if_pos hc, if_pos hc, List.cons_append]
    · rw [if_neg hc, if_neg hc]
      cases hlines : lines (cs ++ ['\n']) with
      | nil => exact absurd hlines (lines_concat_ne_nil cs)
      | cons line more => rfl

/-- The text ends with a line, so that what follows it begins a new one. -/
def EndsLine (text : List Char) : Prop := ∀ rest, lines (text ++ rest) = lines text ++ lines rest

theorem endsLine_nil : EndsLine [] := fun _ ↦ rfl

theorem endsLine_concat (cs : List Char) : EndsLine (cs ++ ['\n']) := by
  intro rest
  rw [List.append_assoc, List.singleton_append, lines_append_lineEnd]

theorem EndsLine.append {text more : List Char} (h : EndsLine text) (h' : EndsLine more) :
    EndsLine (text ++ more) := by
  intro rest
  rw [List.append_assoc, h, h', h, List.append_assoc]

theorem endsLine_flatMap {α : Type} {l : List α} {text : α → List Char}
    (h : ∀ a ∈ l, EndsLine (text a)) : EndsLine (l.flatMap text) := by
  induction l with
  | nil => exact endsLine_nil
  | cons a l ih =>
    obtain ⟨ha, hl⟩ := List.forall_mem_cons.1 h
    exact ha.append (ih hl)

/-- The text is read as these lines, and what follows it as if it stood alone. -/
def Reads (text : List Char) (ls : List Line) : Prop :=
  ∀ rest, readPage? (text ++ rest) = (readPage? rest).map (ls ++ ·)

theorem Reads.readPage? {text : List Char} {ls : List Line} (h : Reads text ls) :
    readPage? text = some ls := by
  have hwhole := h []
  rw [List.append_nil] at hwhole
  rw [hwhole]
  exact congrArg some (List.append_nil ls)

theorem reads_nil : Reads [] [] := by
  intro rest
  rw [List.nil_append]
  cases Exposition.readPage? rest <;> rfl

theorem Reads.append {text more : List Char} {ls ms : List Line} (h : Reads text ls)
    (h' : Reads more ms) : Reads (text ++ more) (ls ++ ms) := by
  intro rest
  rw [List.append_assoc, h, h', Option.map_map]
  refine congrArg (fun f ↦ (Exposition.readPage? rest).map f) (funext fun ks ↦ ?_)
  exact (List.append_assoc ls ms ks).symm

theorem reads_flatMap {α : Type} {l : List α} {text : α → List Char} {ls : α → List Line}
    (h : ∀ a ∈ l, Reads (text a) (ls a)) : Reads (l.flatMap text) (l.flatMap ls) := by
  induction l with
  | nil => exact reads_nil
  | cons a l ih =>
    obtain ⟨ha, hl⟩ := List.forall_mem_cons.1 h
    exact ha.append (ih hl)

theorem reads_line {line : List Char} {l : Line} (h : '\n' ∉ line)
    (hread : readLine? line = some l) : Reads (line ++ ['\n']) [l] := by
  intro rest
  unfold Exposition.readPage?
  rw [List.append_assoc, List.singleton_append, lines_append_cons h, List.mapM_cons, hread]
  cases (lines rest).mapM readLine? <;> rfl

/-! ## Labels -/

theorem readValue?_escapeLabelChar (c : Char) (rest : List Char) :
    readValue? false (escapeLabelChar c ++ rest) = (readValue? false rest).map (prepend c) := by
  unfold escapeLabelChar escapeHelpChar
  split
  · next hc =>
    rw [hc]
    rfl
  · next hquote =>
    split
    · next hc =>
      rw [hc]
      rfl
    · next hbackslash =>
      split
      · next hc =>
        rw [hc]
        rfl
      · rw [List.singleton_append, readValue?, if_neg Bool.false_ne_true, if_neg hquote,
          if_neg hbackslash]

/-- Whatever the value of a label is, it is read back. -/
theorem readValue?_escapeLabel (s : String) (rest : List Char) :
    readValue? false (escapeLabel s ++ '"' :: rest) = some (s.toList, rest) := by
  unfold escapeLabel
  induction s.toList with
  | nil => rfl
  | cons c cs ih =>
    rw [List.flatMap_cons, List.append_assoc, readValue?_escapeLabelChar, ih]
    rfl

theorem all_isNameChar_of_isMetricName {cs : List Char} (h : isMetricName cs = true) :
    ∀ c ∈ cs, isNameChar c = true := by
  cases cs with
  | nil => exact nofun
  | cons c cs =>
    rw [isMetricName, Bool.and_eq_true, List.all_eq_true] at h
    refine List.forall_mem_cons.2 ⟨?_, h.2⟩
    rw [isNameChar, h.1]
    rfl

theorem takeWhile_isNameChar {name : List Char} (h : isMetricName name = true) {c : Char}
    (hc : isNameChar c = false) (rest : List Char) :
    (name ++ c :: rest).takeWhile isNameChar = name ∧
      (name ++ c :: rest).dropWhile isNameChar = c :: rest := by
  have hname := all_isNameChar_of_isMetricName h
  have hhead : ∀ d ∈ (c :: rest).head?, isNameChar d = false := by
    intro d hd
    obtain rfl : c = d := Option.some.inj hd
    exact hc
  exact ⟨Text.takeWhile_append hname hhead, Text.dropWhile_append hname hhead⟩

/-- The name and the value of a label as lists of characters. -/
def labelChars (l : String × String) : List Char × List Char := (l.1.toList, l.2.toList)

theorem isMetricName_of_isLabelName {cs : List Char} (h : isLabelName cs = true) :
    isMetricName cs = true := (Bool.and_eq_true_iff.1 h).1

theorem readLabel?_label {l : String × String} (h : isLabelName l.1.toList = true)
    (rest : List Char) : readLabel? (label l ++ rest) = some (labelChars l, rest) := by
  have hsplit := takeWhile_isNameChar (isMetricName_of_isLabelName h)
    (by decide : isNameChar '=' = false) ('"' :: (escapeLabel l.2 ++ '"' :: rest))
  have hlabel : label l ++ rest = l.1.toList ++ '=' :: '"' :: (escapeLabel l.2 ++ '"' :: rest) := by
    simp [label]
  unfold readLabel?
  rw [hlabel, hsplit.1, hsplit.2]
  change (if isLabelName l.1.toList = true then
    (readValue? false (escapeLabel l.2 ++ '"' :: rest)).map _ else none) = _
  rw [if_pos h, readValue?_escapeLabel]
  rfl

theorem readLabels?_joinWith {ls : List (String × String)} (hne : ls ≠ [])
    (h : ∀ l ∈ ls, isLabelName l.1.toList = true) (rest : List Char) :
    readLabels? (Text.joinWith [','] (ls.map label) ++ '\x7d' :: rest) =
      some (ls.map labelChars, rest) := by
  induction ls with
  | nil => exact absurd rfl hne
  | cons l ls ih =>
    obtain ⟨hl, hls⟩ := List.forall_mem_cons.1 h
    cases ls with
    | nil =>
      change readLabels? (label l ++ '\x7d' :: rest) = _
      rw [readLabels?, readLabel?_label hl]
      rfl
    | cons l' ls =>
      have hjoin : Text.joinWith [','] ((l :: l' :: ls).map label) ++ '\x7d' :: rest =
          label l ++ ',' :: (Text.joinWith [','] ((l' :: ls).map label) ++ '\x7d' :: rest) := by
        simp [Text.joinWith]
      rw [hjoin, readLabels?, readLabel?_label hl]
      change (readLabels? (Text.joinWith [','] ((l' :: ls).map label) ++ '\x7d' :: rest)).map _ = _
      rw [ih (List.cons_ne_nil _ _) hls]
      rfl

/-! ## Samples -/

/-- A sample with the given parts. -/
def sampleOf (name ending : String) (ls : List (String × String)) (value : Binary64) : Sample :=
  ⟨name.toList ++ ending.toList, ls.map labelChars, value.text.toList⟩

theorem readNumber?_text (x : Binary64) : readNumber? (' ' :: x.text.toList) =
    some x.text.toList := if_pos (Decimal.isSome_readChars?_text x)

/-- A sample is read back, whatever the values of its labels are. -/
theorem readSample?_of_isMetricName {name ending : String} {ls : List (String × String)}
    (hname : isMetricName (name.toList ++ ending.toList) = true)
    (hlabels : ∀ l ∈ ls, isLabelName l.1.toList = true) (value : Binary64) :
    readSample? (name.toList ++ ending.toList ++ labels ls ++ ' ' :: value.text.toList) =
      some (sampleOf name ending ls value) := by
  unfold readSample?
  cases ls with
  | nil =>
    have hsplit := takeWhile_isNameChar hname (by decide : isNameChar ' ' = false)
      value.text.toList
    have htext : name.toList ++ ending.toList ++ labels [] ++ ' ' :: value.text.toList =
        name.toList ++ ending.toList ++ ' ' :: value.text.toList := by
      simp [labels]
    rw [htext, hsplit.1, hsplit.2]
    dsimp only
    rw [if_pos hname]
    change (readNumber? (' ' :: value.text.toList)).map _ = _
    rw [readNumber?_text]
    rfl
  | cons l ls =>
    have hsplit := takeWhile_isNameChar hname (by decide : isNameChar '\x7b' = false)
      (Text.joinWith [','] ((l :: ls).map label) ++ '\x7d' :: ' ' :: value.text.toList)
    have htext : name.toList ++ ending.toList ++ labels (l :: ls) ++ ' ' :: value.text.toList =
        name.toList ++ ending.toList ++ '\x7b' :: (Text.joinWith [','] ((l :: ls).map label) ++
          '\x7d' :: ' ' :: value.text.toList) := by
      simp [labels]
    rw [htext, hsplit.1, hsplit.2]
    dsimp only
    rw [if_pos hname]
    change (readLabels? (Text.joinWith [','] ((l :: ls).map label) ++ '\x7d' ::
      ' ' :: value.text.toList)).bind _ = _
    rw [readLabels?_joinWith (List.cons_ne_nil _ _) hlabels]
    change (readNumber? (' ' :: value.text.toList)).map _ = _
    rw [readNumber?_text]
    rfl

theorem lineEnd_not_mem_of_isMetricName {cs : List Char} (h : isMetricName cs = true) :
    '\n' ∉ cs := by
  intro hmem
  exact absurd (all_isNameChar_of_isMetricName h _ hmem) (by decide)

theorem lineEnd_not_mem_escapeHelpChar (c : Char) : '\n' ∉ escapeHelpChar c := by
  unfold escapeHelpChar
  split
  · decide
  · split
    · decide
    · next hc =>
      rw [List.mem_singleton]
      exact Ne.symm hc

theorem lineEnd_not_mem_escapeHelp (s : String) : '\n' ∉ escapeHelp s := by
  intro h
  obtain ⟨c, -, hc⟩ := List.mem_flatMap.1 h
  exact lineEnd_not_mem_escapeHelpChar c hc

theorem lineEnd_not_mem_escapeLabel (s : String) : '\n' ∉ escapeLabel s := by
  intro h
  obtain ⟨c, -, hc⟩ := List.mem_flatMap.1 h
  unfold escapeLabelChar at hc
  split at hc
  · exact absurd hc (by decide)
  · exact lineEnd_not_mem_escapeHelpChar c hc

theorem lineEnd_not_mem_label {l : String × String} (h : isLabelName l.1.toList = true) :
    '\n' ∉ label l := by
  have hname := lineEnd_not_mem_of_isMetricName (isMetricName_of_isLabelName h)
  have hvalue := lineEnd_not_mem_escapeLabel l.2
  simp [label, hname, hvalue]

theorem lineEnd_not_mem_labels {ls : List (String × String)}
    (h : ∀ l ∈ ls, isLabelName l.1.toList = true) : '\n' ∉ labels ls := by
  have hjoin : '\n' ∉ Text.joinWith [','] (ls.map label) := by
    intro hmem
    rcases Text.mem_joinWith hmem with hsep | ⟨text, htext, hmem⟩
    · exact absurd hsep (by decide)
    · obtain ⟨l, hl, rfl⟩ := List.mem_map.1 htext
      exact lineEnd_not_mem_label (h l hl) hmem
  unfold labels
  split
  · exact List.not_mem_nil
  · simp [hjoin]

theorem lineEnd_not_mem_text (x : Binary64) : '\n' ∉ x.text.toList := by
  intro h
  obtain ⟨y, hy⟩ := Option.isSome_iff_exists.1 (Decimal.isSome_readChars?_text x)
  exact absurd (Decimal.isNumberChar_of_readChars? hy _ h) (by decide)

/-- A text that begins as a name does is no comment. -/
theorem readLine?_of_isMetricName {name : List Char} (h : isMetricName name = true)
    (rest : List Char) :
    readLine? (name ++ rest) = (readSample? (name ++ rest)).map .sample := by
  cases name with
  | nil => cases h
  | cons c cs =>
    have hc : ¬ '#' = c := by
      rintro rfl
      rw [isMetricName, Bool.and_eq_true] at h
      exact absurd h.1 (by decide)
    have hafter (pat : List Char) : Text.after? ('#' :: pat) (c :: cs ++ rest) = none := if_neg hc
    unfold readLine?
    change (match Text.after? ('#' :: " HELP ".toList) (c :: cs ++ rest) with
      | some rest => _
      | none =>
        match Text.after? ('#' :: " TYPE ".toList) (c :: cs ++ rest) with
        | some rest => _
        | none => _) = _
    rw [hafter, hafter]

/-- A sample line is read as what it was written for. -/
theorem reads_sample {name ending : String} {ls : List (String × String)}
    (hname : isMetricName (name.toList ++ ending.toList) = true)
    (hlabels : ∀ l ∈ ls, isLabelName l.1.toList = true) (value : Binary64) :
    Reads (sample name ending ls value) [.sample (sampleOf name ending ls value)] := by
  have hline : sample name ending ls value =
      (name.toList ++ ending.toList ++ labels ls ++ ' ' :: value.text.toList) ++ ['\n'] := by
    simp [sample]
  rw [hline]
  apply reads_line
  · rw [List.mem_append, List.mem_append, List.mem_cons, not_or, not_or, not_or]
    exact ⟨⟨lineEnd_not_mem_of_isMetricName hname, lineEnd_not_mem_labels hlabels⟩, by decide,
      lineEnd_not_mem_text value⟩
  · have hread := readSample?_of_isMetricName hname hlabels value
    rw [List.append_assoc (name.toList ++ ending.toList)] at hread ⊢
    rw [readLine?_of_isMetricName hname, hread]
    rfl

/-! ## Comments -/

theorem readComment?_of_isMetricName {name : List Char} (h : isMetricName name = true)
    (rest : List Char) : readComment? (name ++ ' ' :: rest) = some (name, rest) := by
  have hsplit := takeWhile_isNameChar h (by decide : isNameChar ' ' = false) rest
  unfold readComment?
  rw [hsplit.1, hsplit.2]
  exact if_pos h

theorem reads_help {name : String} (h : isMetricName name.toList = true) (help : String) :
    Reads ("# HELP ".toList ++ name.toList ++ [' '] ++ escapeHelp help ++ ['\n'])
      [.help name.toList] := by
  apply reads_line
  · have hname := lineEnd_not_mem_of_isMetricName h
    have hhelp := lineEnd_not_mem_escapeHelp help
    simp [hname, hhelp]
  · have hread := readComment?_of_isMetricName h (escapeHelp help)
    rw [List.append_assoc, List.append_assoc, List.singleton_append]
    change (readComment? (name.toList ++ ' ' :: escapeHelp help)).map _ = _
    rw [hread]
    rfl

theorem reads_type {name : String} (h : isMetricName name.toList = true) (kind : MetricKind) :
    Reads ("# TYPE ".toList ++ name.toList ++ [' '] ++ kind.text.toList ++ ['\n'])
      [.type name.toList kind] := by
  apply reads_line
  · have hname := lineEnd_not_mem_of_isMetricName h
    have hkind : '\n' ∉ kind.text.toList := by cases kind <;> decide
    simp [hname, hkind]
  · have hread := readComment?_of_isMetricName h kind.text.toList
    have hkind : readKind? kind.text.toList = some kind := by cases kind <;> decide
    rw [List.append_assoc, List.append_assoc, List.singleton_append]
    change (readComment? (name.toList ++ ' ' :: kind.text.toList)).bind _ = _
    rw [hread]
    change (readKind? kind.text.toList).map _ = _
    rw [hkind]
    rfl

theorem eq_of_append_blank {name other rest more : List Char} (hname : ' ' ∉ name)
    (hother : ' ' ∉ other) (h : name ++ ' ' :: rest = other ++ ' ' :: more) : name = other := by
  have htake {cs : List Char} (hcs : ' ' ∉ cs) (rest : List Char) :
      (cs ++ ' ' :: rest).takeWhile (· ≠ ' ') = cs := by
    apply Text.takeWhile_append
    · rintro c hc
      exact decide_eq_true fun hblank ↦ hcs (hblank ▸ hc)
    · intro c hc
      obtain rfl : ' ' = c := Option.some.inj hc
      decide
  rw [← htake hname rest, h, htake hother more]

/-- A page is read only if the name in each of its type comments is one. -/
theorem isMetricName_of_readPage? {before name rest : List Char} {kind : MetricKind}
    (hbefore : EndsLine before) (hname : ' ' ∉ name)
    (h : (readPage? (before ++ ("# TYPE ".toList ++ name ++ [' '] ++ kind.text.toList ++ ['\n'] ++
      rest))).isSome) : isMetricName name = true := by
  have hmem : '\n' ∈ name ++ ' ' :: (kind.text.toList ++ '\n' :: rest) := by simp
  -- The comment ends at the first line end, which may stand within the name.
  obtain ⟨first, more, hfirst, hend⟩ := List.eq_append_cons_of_mem hmem
  have htext : "# TYPE ".toList ++ name ++ [' '] ++ kind.text.toList ++ ['\n'] ++ rest =
      ("# TYPE ".toList ++ first) ++ '\n' :: more := by
    rw [List.append_assoc _ first, ← hfirst]
    simp
  have hlines : "# TYPE ".toList ++ first ∈ lines (before ++ (("# TYPE ".toList ++ first) ++
      '\n' :: more)) := by
    have hline : lines (("# TYPE ".toList ++ first) ++ '\n' :: more) =
        ("# TYPE ".toList ++ first) :: lines more :=
      lines_append_cons (by simp [hend]) more
    rw [hbefore, hline]
    exact List.mem_append_right _ List.mem_cons_self
  rw [htext] at h
  obtain ⟨page, hpage⟩ := Option.isSome_iff_exists.1 h
  have hmem := map_readLine?_lines hpage ▸ List.mem_map_of_mem (f := readLine?) hlines
  obtain ⟨line, -, hread⟩ := List.mem_map.1 hmem
  change some line = (readComment? first).bind fun r ↦ (readKind? r.2).map (Line.type r.1) at hread
  obtain ⟨⟨other, behind⟩, hcomment, -⟩ := Option.bind_eq_some_iff.1 hread.symm
  obtain ⟨hother, hvalid⟩ := of_readComment? hcomment
  have hblank : ' ' ∉ other := fun hb ↦
    absurd (all_isNameChar_of_isMetricName hvalid _ hb) (by decide)
  rw [hother, List.append_assoc, List.cons_append] at hfirst
  rw [eq_of_append_blank hname hblank hfirst]
  exact hvalid

end Telemetry.Exposition
