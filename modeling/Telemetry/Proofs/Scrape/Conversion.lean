import Mathlib.Data.List.Forall2
import Telemetry.Proofs.Number.Decimal
import Telemetry.Proofs.Scrape.Series
import Telemetry.Proofs.Tick.Answers

/-!
# How rows become observations

A scrape ends in one of six ways, and each of them is told by the reply alone: whether it came in
time, what it was, and whether some row has a readable column (`Scrape.IsResult`). If there are
observations, they are those of the rows one after the other, and those of a row are those of its
readable columns in the order of the definition (`Scrape.Parts`); a list that keeps some of its
elements in order is a `Selects`, for the columns of a row as for the buckets of a histogram.

An observation looks up a few names in its row and nothing else of the row
(`Scrape.observationOf_congr`). So whatever is put in the place of a cell, only the observations that
use this very cell are others than before.
-/

namespace Telemetry

/-! ## Some of the elements of a list -/

/-- Each element that is related to something gives that, in order; the others give nothing. -/
inductive Selects {α β : Type} (R : α → β → Prop) : List α → List β → Prop
  | nil : Selects R [] []
  | kept {a : α} {b : β} {as : List α} {bs : List β} (h : R a b) (rest : Selects R as bs) :
      Selects R (a :: as) (b :: bs)
  | dropped {a : α} {as : List α} {bs : List β} (h : ∀ b, ¬ R a b) (rest : Selects R as bs) :
      Selects R (a :: as) bs

theorem selects_iff {α β : Type} {R : α → β → Prop} {f : α → Option β}
    (h : ∀ a b, f a = some b ↔ R a b) {as : List α} {bs : List β} :
    Selects R as bs ↔ as.filterMap f = bs := by
  constructor
  · intro hselects
    induction hselects with
    | nil => rfl
    | kept hab _ ih => rw [List.filterMap_cons_some ((h _ _).2 hab), ih]
    | @dropped a _ _ hnot _ ih =>
      have hnone : f a = none := Option.eq_none_iff_forall_ne_some.2 fun b hb ↦ hnot b ((h a b).1 hb)
      rw [List.filterMap_cons_none hnone, ih]
  · rintro rfl
    induction as with
    | nil => exact .nil
    | cons a as ih =>
      cases ha : f a with
      | none =>
        rw [List.filterMap_cons_none ha]
        refine .dropped (fun b hb ↦ ?_) ih
        rw [(h a b).2 hb] at ha
        cases ha
      | some b =>
        rw [List.filterMap_cons_some ha]
        exact .kept ((h a b).1 ha) ih

/-! ## Replies in time -/

theorem Duration.ceilMillis_le_iff {d : Duration} {n : Nat} :
    d.ceilMillis ≤ n ↔ d.nanos ≤ (ofMillis n).nanos := by
  change _ ↔ d.nanos ≤ n * 1000000
  rw [ceilMillis]
  split <;> omega

/-- The time is longer than a deadline lasts, whose timer fires on a whole millisecond. -/
def Duration.Outlasts (delay deadline : Duration) : Prop :=
  (ofMillis deadline.ceilMillis).nanos < delay.nanos

namespace Reply

variable {α : Type} {reply : Reply α} {deadline : Duration}

theorem within_of_outlasts (h : reply.delay.Outlasts deadline) :
    reply.within deadline = .error (.timeout deadline) := by
  have hlate : ¬ reply.delay.ceilMillis ≤ deadline.ceilMillis :=
    mt Duration.ceilMillis_le_iff.1 (Nat.not_le_of_lt h)
  rw [within, if_neg hlate]

theorem within_of_not_outlasts (h : ¬ reply.delay.Outlasts deadline) :
    reply.within deadline = reply.outcome := by
  have hintime : reply.delay.ceilMillis ≤ deadline.ceilMillis :=
    Duration.ceilMillis_le_iff.2 (Nat.le_of_not_lt h)
  rw [within, if_pos hintime]

end Reply

/-! ## Cells -/

/-- The cell is read as a number; NULL is zero. -/
inductive IsNumber : Cell → Binary64 → Prop
  | null : IsNumber none .zero
  | text {s : String} {x : Binary64} (h : Decimal.readChars? (Text.trimChars s.toList) = some x) :
      IsNumber (some s) x

/-- The cell is read as a count of 64 bits; NULL is zero. -/
inductive IsCount : Cell → Nat → Prop
  | null : IsCount none 0
  | text {s : String} {n : Nat} (h : Decimal.IsUnsigned 64 (Text.trimChars s.toList) n) :
      IsCount (some s) n

namespace Row

variable {row : Row} {name : String} {cell : Cell}

/-- The row holds the cell under the name: in the first column with the name in small letters. -/
def Holds (row : Row) (name : String) (cell : Cell) : Prop :=
  ∃ before after, row.columns = before ++ (Text.lower name, cell) :: after ∧
    ∀ e ∈ before, e.1 ≠ Text.lower name

def HoldsNumber (row : Row) (name : String) (x : Binary64) : Prop :=
  ∃ cell, row.Holds name cell ∧ IsNumber cell x

def HoldsCount (row : Row) (name : String) (n : Nat) : Prop :=
  ∃ cell, row.Holds name cell ∧ IsCount cell n

/-- The row has a number for a value column, and the count that a histogram needs. -/
def IsReadable (row : Row) (column : MetricColumn) : Prop :=
  (∃ x, row.HoldsNumber column.name x) ∧
    (column.kind = .histogram → ∃ n, row.HoldsCount Scrape.countColumn n)

theorem get?_eq_some_iff : row.get? name = some cell ↔ row.Holds name cell := by
  rw [get?, Keyed.map_find?_eq_some_iff (p := (· == Text.lower name))]
  simp only [beq_iff_eq, beq_eq_false_iff_ne]
  constructor
  · rintro ⟨before, _, after, heq, rfl, hbefore⟩
    exact ⟨before, after, heq, hbefore⟩
  · rintro ⟨before, after, heq, hbefore⟩
    exact ⟨before, _, after, heq, rfl, hbefore⟩

theorem numeric_eq_value_iff {x : Binary64} :
    row.numeric name = .value x ↔ row.HoldsNumber name x := by
  simp only [HoldsNumber, ← get?_eq_some_iff, numeric]
  constructor
  · intro h
    split at h
    · cases h
    · next hget =>
      obtain rfl := Numeric.value.inj h
      exact ⟨none, hget, .null⟩
    · next s hget =>
      split at h
      · next hread =>
        obtain rfl := Numeric.value.inj h
        exact ⟨some s, hget, .text hread⟩
      · cases h
  · rintro ⟨cell, hget, hnumber⟩
    cases hnumber with
    | null => rw [hget]
    | text hread => simp only [hget, hread]

theorem count?_eq_some_iff {n : Nat} : row.count? name = some n ↔ row.HoldsCount name n := by
  simp only [HoldsCount, ← get?_eq_some_iff, count?]
  constructor
  · intro h
    split at h
    · cases h
    · next hget =>
      obtain rfl := Option.some.inj h
      exact ⟨none, hget, .null⟩
    · next s hget => exact ⟨some s, hget, .text (Decimal.readUnsigned?_eq_some_iff.1 h)⟩
  · rintro ⟨cell, hget, hcount⟩
    cases hcount with
    | null => rw [hget]
    | text hread =>
      rw [hget]
      exact Decimal.readUnsigned?_eq_some_iff.2 hread

theorem measures_iff {column : MetricColumn} : row.Measures column ↔ row.IsReadable column := by
  simp only [IsReadable, ← numeric_eq_value_iff, ← count?_eq_some_iff]
  exact ⟨fun h ↦ ⟨h.value, h.count⟩, fun h ↦ ⟨h.1, h.2⟩⟩

end Row

/-! ## Observations -/

/-- The observation is that of a column in a row. -/
structure Observation.IsFrom (o : Observation) (row : Row) (d : Definition)
    (namespaceName : String) (constant : List (String × String)) (column : MetricColumn) :
    Prop where
  name : o.name = Scrape.nameOf row d namespaceName column
  help : o.help = column.help
  labels : o.labels = Scrape.labelsOf row d constant
  kind : o.kind = column.kind
  value : row.HoldsNumber column.name o.value
  /-- The buckets with a readable counter are there, each with its bound. -/
  histogram : column.kind = .histogram → ∃ h, o.histogram = some h ∧
    row.HoldsCount Scrape.countColumn h.count ∧
      Selects (fun bucket kept ↦ kept.1 = bucket.2 ∧ row.HoldsCount bucket.1 kept.2)
        column.buckets h.buckets
  noHistogram : column.kind ≠ .histogram → o.histogram = none

namespace Scrape

variable {row row' : Row} {d : Definition} {namespaceName : String}
  {constant : List (String × String)} {column : MetricColumn} {o : Observation}

theorem histogramOf_eq_some_iff {h : Histogram} : histogramOf row column = some h ↔
    row.HoldsCount countColumn h.count ∧
      Selects (fun bucket kept ↦ kept.1 = bucket.2 ∧ row.HoldsCount bucket.1 kept.2)
        column.buckets h.buckets := by
  have hbucket : ∀ (bucket : String × Binary64) (kept : Binary64 × Nat),
      ((row.count? bucket.1).map fun n ↦ (bucket.2, n)) = some kept ↔
        kept.1 = bucket.2 ∧ row.HoldsCount bucket.1 kept.2 := by
    rintro ⟨name, bound⟩ ⟨bound', n⟩
    rw [Option.map_eq_some_iff, ← Row.count?_eq_some_iff]
    constructor
    · rintro ⟨_, hcount, heq⟩
      obtain ⟨rfl, rfl⟩ := Prod.mk.inj heq
      exact ⟨rfl, hcount⟩
    · rintro ⟨rfl, hcount⟩
      exact ⟨n, hcount, rfl⟩
  rw [histogramOf, Option.map_eq_some_iff, selects_iff hbucket]
  constructor
  · rintro ⟨n, hcount, rfl⟩
    exact ⟨Row.count?_eq_some_iff.1 hcount, rfl⟩
  · rintro ⟨hcount, hbuckets⟩
    refine ⟨h.count, Row.count?_eq_some_iff.2 hcount, ?_⟩
    rw [hbuckets]

theorem observationOf_eq_some_iff : observationOf row d namespaceName constant column = some o ↔
    o.IsFrom row d namespaceName constant column := by
  constructor
  · intro h
    rw [observationOf] at h
    cases hnumeric : row.numeric column.name with
    | absent => simp [hnumeric] at h
    | invalid text => simp [hnumeric] at h
    | value x =>
      have hvalue := Row.numeric_eq_value_iff.1 hnumeric
      cases hkind : column.kind with
      | gauge | counter =>
        simp only [hnumeric, hkind, Option.some.injEq] at h
        subst h
        exact ⟨rfl, rfl, rfl, hkind.symm, hvalue, by simp [hkind], fun _ ↦ rfl⟩
      | histogram =>
        simp only [hnumeric, hkind, Option.map_eq_some_iff] at h
        obtain ⟨h, hhistogram, rfl⟩ := h
        have hdata := histogramOf_eq_some_iff.1 hhistogram
        exact ⟨rfl, rfl, rfl, hkind.symm, hvalue, fun _ ↦ ⟨h, rfl, hdata⟩, absurd hkind⟩
  · obtain ⟨name, help, labels, kind, value, histogram⟩ := o
    rintro ⟨rfl, rfl, rfl, rfl, hvalue, hsome, hnone⟩
    rw [observationOf, Row.numeric_eq_value_iff.2 hvalue]
    cases hkind : column.kind with
    | gauge | counter =>
      have hhistogram := hnone (by simp [hkind])
      dsimp only at hhistogram
      rw [hhistogram]
    | histogram =>
      obtain ⟨h, hhistogram, hdata⟩ := hsome hkind
      dsimp only at hhistogram
      rw [hhistogram]
      dsimp only
      rw [histogramOf_eq_some_iff.2 hdata, Option.map_some]

/-- A column of a row has an observation exactly if it can be read. -/
theorem exists_isFrom_iff (row : Row) (d : Definition) (namespaceName : String)
    (constant : List (String × String)) (column : MetricColumn) :
    (∃ o : Observation, o.IsFrom row d namespaceName constant column) ↔
      row.IsReadable column := by
  simp only [← observationOf_eq_some_iff, ← Row.measures_iff]
  constructor
  · rintro ⟨o, ho⟩
    exact (exists_observationOf_iff.1 ⟨o, ho, rfl⟩).1
  · intro h
    obtain ⟨o, ho, -⟩ := exists_observationOf_iff.2 ⟨h, rfl⟩
    exact ⟨o, ho⟩

/-! ## The results of a scrape -/

/-- The observations of the rows, row by row: for each column in order the one that it has. -/
def Parts (rows : List Row) (d : Definition) (namespaceName : String)
    (constant : List (String × String)) (parts : List (List Observation)) : Prop :=
  List.Forall₂ (fun row part ↦ Selects
    (fun column (o : Observation) ↦ o.IsFrom row d namespaceName constant column) d.columns part)
    rows parts

theorem selects_iff_convertRow {part : List Observation} : Selects
    (fun column (o : Observation) ↦ o.IsFrom row d namespaceName constant column) d.columns part ↔
      convertRow row d namespaceName constant = part :=
  selects_iff fun _ _ ↦ observationOf_eq_some_iff

theorem parts_iff {rows : List Row} {parts : List (List Observation)} :
    Parts rows d namespaceName constant parts ↔
      rows.map (fun row ↦ convertRow row d namespaceName constant) = parts := by
  simp only [Parts, selects_iff_convertRow]
  rw [← List.forall₂_map_left_iff, List.forall₂_eq_eq_eq]

/-- How a scrape ends. -/
structure IsResult (reply : Reply (List Row)) (d : Definition) (namespaceName : String)
    (constant : List (String × String)) (default : Duration)
    (result : Except ScrapeError (List Observation)) : Prop where
  timeout : ∀ limit, result = .error (.timeout limit) ↔
    (reply.delay.Outlasts (deadline d default) ∧ limit = deadline d default) ∨
      (¬ reply.delay.Outlasts (deadline d default) ∧ reply.outcome = .error (.timeout limit))
  query : ∀ e, result = .error (.query e) ↔ ¬ reply.delay.Outlasts (deadline d default) ∧
    reply.outcome = .error e ∧ ∀ limit, e ≠ .timeout limit
  zeroResult : result = .error .zeroResult ↔
    ¬ reply.delay.Outlasts (deadline d default) ∧ reply.outcome = .ok []
  noParseableValues : ∀ n, result = .error (.noParseableValues n) ↔
    ¬ reply.delay.Outlasts (deadline d default) ∧ ∃ rows, reply.outcome = .ok rows ∧ rows ≠ [] ∧
      n = rows.length ∧ ∀ row ∈ rows, ∀ column ∈ d.columns, ¬ row.IsReadable column
  ok : ∀ os, result = .ok os ↔ ¬ reply.delay.Outlasts (deadline d default) ∧
    ∃ rows parts, reply.outcome = .ok rows ∧ Parts rows d namespaceName constant parts ∧
      os = parts.flatten ∧ os ≠ []
  available : ∀ target, result ≠ .error (.targetUnavailable target)

theorem Parts.flatten_eq {rows : List Row} {parts : List (List Observation)}
    (h : Parts rows d namespaceName constant parts) :
    parts.flatten = rows.flatMap fun row ↦ convertRow row d namespaceName constant := by
  rw [← parts_iff.1 h, List.flatMap_def]

/-- Nothing is observed exactly if no row has a readable column. -/
theorem Parts.flatten_eq_nil_iff {rows : List Row} {parts : List (List Observation)}
    (h : Parts rows d namespaceName constant parts) : parts.flatten = [] ↔
      ∀ row ∈ rows, ∀ column ∈ d.columns, ¬ row.IsReadable column := by
  rw [h.flatten_eq, List.flatMap_eq_nil_iff]
  refine forall₂_congr fun row _ ↦ ?_
  rw [convertRow, List.filterMap_eq_nil_iff]
  refine forall₂_congr fun column _ ↦ ?_
  rw [← exists_isFrom_iff row d namespaceName constant column, not_exists,
    Option.eq_none_iff_forall_ne_some]
  exact forall_congr' fun o ↦ not_congr observationOf_eq_some_iff

/-- Rows come to one of three results. -/
theorem convert_cases (rows : List Row) (d : Definition) (namespaceName : String)
    (constant : List (String × String)) :
    ∃ parts, Parts rows d namespaceName constant parts ∧
      ((rows = [] ∧ convert rows d namespaceName constant = .error .zeroResult) ∨
        (rows ≠ [] ∧ parts.flatten = [] ∧
          convert rows d namespaceName constant = .error (.noParseableValues rows.length)) ∨
        (parts.flatten ≠ [] ∧ convert rows d namespaceName constant = .ok parts.flatten)) := by
  have hparts : Parts rows d namespaceName constant _ := parts_iff.2 rfl
  refine ⟨_, hparts, ?_⟩
  rw [convert, ← hparts.flatten_eq]
  by_cases hrows : rows = []
  · exact .inl ⟨hrows, by rw [if_pos (List.isEmpty_iff.2 hrows)]⟩
  · rw [if_neg (mt List.isEmpty_iff.1 hrows)]
    dsimp only
    by_cases hempty : (rows.map fun row ↦ convertRow row d namespaceName constant).flatten = []
    · rw [if_pos (List.isEmpty_iff.2 hempty)]
      exact .inr (.inl ⟨hrows, hempty, rfl⟩)
    · rw [if_neg (mt List.isEmpty_iff.1 hempty)]
      exact .inr (.inr ⟨hempty, rfl⟩)

theorem isResult_ofReply (reply : Reply (List Row)) (d : Definition) (namespaceName : String)
    (constant : List (String × String)) (default : Duration) :
    IsResult reply d namespaceName constant default
      (ofReply reply d namespaceName constant default) := by
  by_cases hlate : reply.delay.Outlasts (deadline d default)
  · rw [ofReply, Reply.within_of_outlasts hlate]
    constructor <;> simp [hlate, ScrapeError.ofDbError, eq_comm]
  · rw [ofReply, Reply.within_of_not_outlasts hlate]
    cases houtcome : reply.outcome with
    | error e =>
      -- A timeout that the session itself reports is one of the scrape.
      cases e with
      | timeout limit => constructor <;> simp [hlate, houtcome, ScrapeError.ofDbError]
      | closed | invalidCredentials | other =>
        constructor <;> simp [hlate, houtcome, ScrapeError.ofDbError]
    | ok rows =>
      dsimp only
      obtain ⟨parts, hparts, hcases⟩ := convert_cases rows d namespaceName constant
      have hunique : ∀ parts', Parts rows d namespaceName constant parts' ↔ parts' = parts := by
        intro parts'
        rw [parts_iff, parts_iff.1 hparts, eq_comm]
      have hnone := hparts.flatten_eq_nil_iff
      rcases hcases with ⟨rfl, heq⟩ | ⟨hrows, hempty, heq⟩ | ⟨hsome, heq⟩
      · rw [heq]
        constructor <;> simp [hlate, houtcome, Parts]
      · rw [heq]
        rw [hempty] at hnone
        constructor <;> simp [hlate, houtcome, hunique, hempty, hrows, ← hnone, eq_comm]
      · rw [heq]
        have hrows : rows ≠ [] := by
          rintro rfl
          exact hsome (hnone.2 fun row hrow ↦ absurd hrow List.not_mem_nil)
        constructor <;> simp [hlate, houtcome, hunique, hsome, hrows, ← hnone, eq_comm]

/-! ## The cells that an observation uses -/

/-- The names that the observation of a column looks up in its row. -/
def namesUsed (d : Definition) (column : MetricColumn) : List String :=
  column.name :: d.labels ++ d.fieldToAppend.toList ++
    if column.kind = .histogram then countColumn :: column.buckets.map (·.1) else []

theorem histogramOf_congr (hcount : row.get? countColumn = row'.get? countColumn)
    (hbuckets : ∀ bucket ∈ column.buckets, row.get? bucket.1 = row'.get? bucket.1) :
    histogramOf row column = histogramOf row' column := by
  have hkept : column.buckets.filterMap (fun b ↦ (row.count? b.1).map fun n ↦ (b.2, n)) =
      column.buckets.filterMap fun b ↦ (row'.count? b.1).map fun n ↦ (b.2, n) := by
    refine List.filterMap_congr fun bucket hbucket ↦ ?_
    rw [Row.count?, Row.count?, hbuckets bucket hbucket]
  rw [histogramOf, histogramOf, hkept, Row.count?, Row.count?, hcount]

theorem nameOf_congr (h : ∀ field ∈ d.fieldToAppend, row.get? field = row'.get? field) :
    nameOf row d namespaceName column = nameOf row' d namespaceName column := by
  rw [nameOf, nameOf]
  cases hfield : d.fieldToAppend with
  | none => rfl
  | some field =>
    dsimp only
    rw [Row.text, Row.text, h field hfield]

theorem labelsOf_congr (h : ∀ label ∈ d.labels, row.get? label = row'.get? label) :
    labelsOf row d constant = labelsOf row' d constant := by
  rw [labelsOf, labelsOf, List.append_cancel_left_eq]
  refine List.map_congr_left fun label hlabel ↦ ?_
  rw [Row.text, Row.text, h label hlabel]

/-- An observation depends on nothing but the cells of its names. -/
theorem observationOf_congr
    (h : ∀ name ∈ namesUsed d column, row.get? name = row'.get? name) :
    observationOf row d namespaceName constant column =
      observationOf row' d namespaceName constant column := by
  simp only [namesUsed, List.cons_append, List.append_assoc, List.forall_mem_cons,
    List.forall_mem_append] at h
  obtain ⟨hvalue, hlabels, hfield, hhistogram⟩ := h
  have hnumeric : row.numeric column.name = row'.numeric column.name := by
    rw [Row.numeric, Row.numeric, hvalue]
  have hname : nameOf row d namespaceName column = nameOf row' d namespaceName column :=
    nameOf_congr fun field hmem ↦ hfield field (Option.mem_toList.2 hmem)
  rw [observationOf, observationOf, hnumeric, hname, labelsOf_congr hlabels]
  cases hkind : column.kind with
  | gauge | counter => rfl
  | histogram =>
    rw [if_pos hkind] at hhistogram
    obtain ⟨hcount, hbuckets⟩ := List.forall_mem_cons.1 hhistogram
    rw [histogramOf_congr hcount fun bucket hbucket ↦ hbuckets _ (List.mem_map_of_mem hbucket)]

end Scrape

/-- A cell of a row among others that is replaced by another one. -/
structure Replacement where
  /-- The rows before the one of the cell. -/
  before : List Row
  /-- The cells before this one in its row. -/
  front : List (String × Cell)
  /-- The name of its column. -/
  key : String
  old : Cell
  new : Cell
  back : List (String × Cell)
  after : List Row

namespace Replacement

variable (r : Replacement) {d : Definition} {namespaceName : String}
  {constant : List (String × String)} {column : MetricColumn}

/-- The row with a cell in this place. -/
def row (cell : Cell) : Row := ⟨r.front ++ (r.key, cell) :: r.back⟩

/-- All rows, with a cell in this place. -/
def rows (cell : Cell) : List Row := r.before ++ r.row cell :: r.after

/-- The observation of a column uses the cell: it looks up the name, and no cell before this one
has it. -/
def IsUsed (d : Definition) (column : MetricColumn) : Prop :=
  (∃ name ∈ Scrape.namesUsed d column, Text.lower name = r.key) ∧ ∀ e ∈ r.front, e.1 ≠ r.key

variable {r}

theorem get?_row_of_not_isUsed (h : ¬ r.IsUsed d column) {name : String}
    (hname : name ∈ Scrape.namesUsed d column) (cell cell' : Cell) :
    (r.row cell).get? name = (r.row cell').get? name := by
  rw [Row.get?, Row.get?, row, row, List.find?_append, List.find?_append]
  by_cases hkey : r.key = Text.lower name
  · -- The name is looked up, so an earlier cell has it and hides this one.
    obtain ⟨e, he, hfirst⟩ : ∃ e ∈ r.front, e.1 = r.key := by
      by_contra hnone
      exact h ⟨⟨name, hname, hkey.symm⟩, fun e he heq ↦ hnone ⟨e, he, heq⟩⟩
    have hfound : (r.front.find? (·.1 == Text.lower name)).isSome = true :=
      List.find?_isSome.2 ⟨e, he, beq_iff_eq.2 (hfirst.trans hkey)⟩
    obtain ⟨found, hfound⟩ := Option.isSome_iff_exists.1 hfound
    rw [hfound, Option.some_or, Option.some_or]
  · have hskip (cell : Cell) : ((r.key, cell) :: r.back).find? (·.1 == Text.lower name) =
        r.back.find? (·.1 == Text.lower name) := List.find?_cons_of_neg (mt beq_iff_eq.1 hkey)
    rw [hskip cell, hskip cell']

/-- A column that does not use the cell has the same observation with every other one. -/
theorem isFrom_row_iff (h : ¬ r.IsUsed d column) (cell cell' : Cell) (o : Observation) :
    o.IsFrom (r.row cell) d namespaceName constant column ↔
      o.IsFrom (r.row cell') d namespaceName constant column := by
  have hcongr : Scrape.observationOf (r.row cell) d namespaceName constant column =
      Scrape.observationOf (r.row cell') d namespaceName constant column :=
    Scrape.observationOf_congr fun name hname ↦ get?_row_of_not_isUsed h hname cell cell'
  rw [← Scrape.observationOf_eq_some_iff, ← Scrape.observationOf_eq_some_iff, hcongr]

end Replacement

namespace Scrape

/-- What is published of rows that come after some time. -/
def published (delay : Duration) (rows : List Row) (d : Definition) (namespaceName : String)
    (constant : List (String × String)) (default : Duration) : List Observation :=
  (Computation.mk d (ofReply ⟨delay, .ok rows⟩ d namespaceName constant default)).observations

theorem published_rows {r : Replacement} {delay default : Duration} {d : Definition}
    (h : ¬ delay.Outlasts (deadline d default)) (namespaceName : String)
    (constant : List (String × String)) (cell : Cell) :
    published delay (r.rows cell) d namespaceName constant default =
      (r.before.flatMap fun row ↦ convertRow row d namespaceName constant) ++
        convertRow (r.row cell) d namespaceName constant ++
          r.after.flatMap fun row ↦ convertRow row d namespaceName constant := by
  rw [published, observations_ofReply, rowsOf, Reply.within_of_not_outlasts h,
    Replacement.rows, List.flatMap_append, List.flatMap_cons, List.append_assoc]

/-- Every scrape ends as it should, and a column of a row has an observation exactly if it can be
read. Where a cell is replaced by another one, the observations of all other rows stay, and so do
those of the columns that do not use the cell. -/
theorem ofReply_converts (d : Definition) (namespaceName : String)
    (constant : List (String × String)) (default : Duration) :
    (∀ reply, IsResult reply d namespaceName constant default
      (ofReply reply d namespaceName constant default)) ∧
    (∀ row column, (∃ o : Observation, o.IsFrom row d namespaceName constant column) ↔
      row.IsReadable column) ∧
    ∀ (r : Replacement) (delay : Duration), ¬ delay.Outlasts (deadline d default) →
      ∃ first part part' last,
        published delay (r.rows r.old) d namespaceName constant default = first ++ part ++ last ∧
        published delay (r.rows r.new) d namespaceName constant default = first ++ part' ++ last ∧
        Selects (fun column o ↦ o.IsFrom (r.row r.old) d namespaceName constant column)
          d.columns part ∧
        Selects (fun column o ↦ o.IsFrom (r.row r.new) d namespaceName constant column)
          d.columns part' ∧
        ∀ column, ¬ r.IsUsed d column → ∀ o : Observation,
          o.IsFrom (r.row r.old) d namespaceName constant column ↔
            o.IsFrom (r.row r.new) d namespaceName constant column := by
  refine ⟨fun reply ↦ isResult_ofReply reply d namespaceName constant default, fun row column ↦
    exists_isFrom_iff row d namespaceName constant column, fun r delay hintime ↦ ?_⟩
  have hpublished := published_rows (r := r) hintime namespaceName constant
  refine ⟨_, _, _, _, hpublished r.old, hpublished r.new, ?_, ?_, ?_⟩
  · exact selects_iff_convertRow.2 rfl
  · exact selects_iff_convertRow.2 rfl
  · exact fun column hunused o ↦ Replacement.isFrom_row_iff hunused r.old r.new o

/-- A definition with two gauges. -/
def sessions : Definition where
  id := "sessions"
  context := "sessions"
  labels := ["state"]
  columns := [⟨"active", "active sessions", .gauge, []⟩, ⟨"idle", "idle sessions", .gauge, []⟩]
  fieldToAppend := none
  request := "q"
  ignoreZeroResult := false
  queryTimeout := none
  scrapeInterval := none
  databases := none

/-- The first gauge becomes unreadable, behind a row that stays. -/
def unreadable : Replacement where
  before := [.ofList [("ACTIVE", some "7")]]
  front := [("state", some "all")]
  key := "active"
  old := some "3"
  new := some "n/a"
  back := [("idle", none)]
  after := []

theorem ofReply_converts_unreadable :
    ¬ Duration.zero.Outlasts (deadline sessions (.ofSeconds 5)) ∧
      ∃ first part part' last,
        published .zero (unreadable.rows unreadable.old) sessions "dbmon" [] (.ofSeconds 5) =
          first ++ part ++ last ∧
        published .zero (unreadable.rows unreadable.new) sessions "dbmon" [] (.ofSeconds 5) =
          first ++ part' ++ last ∧
        Selects (fun column o ↦ o.IsFrom (unreadable.row unreadable.old) sessions "dbmon" [] column)
          sessions.columns part ∧
        Selects (fun column o ↦ o.IsFrom (unreadable.row unreadable.new) sessions "dbmon" [] column)
          sessions.columns part' := by
  have hintime : ¬ Duration.zero.Outlasts (deadline sessions (.ofSeconds 5)) := Nat.not_lt_zero _
  obtain ⟨first, part, part', last, hold, hnew, hpart, hpart', -⟩ :=
    (ofReply_converts sessions "dbmon" [] (.ofSeconds 5)).2.2 unreadable .zero hintime
  exact ⟨hintime, first, part, part', last, hold, hnew, hpart, hpart'⟩

/-- Only the gauge itself is lost. -/
example : (published .zero (unreadable.rows unreadable.new) sessions "dbmon" []
    (.ofSeconds 5)).map (·.name) = ["dbmon_sessions_active", "dbmon_sessions_idle"] := by
  decide +kernel

end Scrape

end Telemetry
