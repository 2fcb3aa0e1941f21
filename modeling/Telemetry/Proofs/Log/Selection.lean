import Mathlib.Data.List.Forall2
import Mathlib.Data.List.Nodup
import Telemetry.Proofs.Log.Redelivery
import Telemetry.Proofs.Time.Order

/-!
# The choice of new rows

Of the rows of a query, those are kept that are newer than a moment, sorted by their moments. What
this means is said here by the places of rows in the result of the query: the rows that were chosen
are listed by their places, earlier moments first and, of rows of the same moment, the one that
stands first (`IsSelection`). No sorting occurs in that, and there is only one such list
(`IsSelection.unique`).

That sorting is stable enters once (`pairwise_mergeSort_ties`): whatever holds along a list still
holds along the sorted list between elements that are as great as each other. Of candidates with
their places this is that the places go up.
-/

namespace Telemetry

/-! ## Sorting -/

/-- Sorting leaves elements that are as great as each other in the order in which they were. -/
theorem pairwise_mergeSort_ties {α : Type} {le : α → α → Bool} {R : α → α → Prop}
    (htrans : ∀ a b c, le a b = true → le b c = true → le a c = true)
    (htotal : ∀ a b, (le a b || le b a) = true) {l : List α} (h : l.Pairwise R) :
    (l.mergeSort le).Pairwise fun a b ↦ le a b = true ∧ (le b a = true → R a b) := by
  induction l with
  | nil => rw [List.mergeSort_nil]; exact .nil
  | cons a l ih =>
    obtain ⟨hfirst, hrest⟩ := List.pairwise_cons.1 h
    obtain ⟨before, after, hsort, hl, hgreater⟩ := List.mergeSort_cons htrans htotal a l
    have hsorted := List.pairwise_mergeSort htrans htotal (a :: l)
    have hties := ih hrest
    rw [hl, List.pairwise_append] at hties
    rw [hsort, List.pairwise_append, List.pairwise_cons] at hsorted
    have hafter : ∀ b ∈ after, b ∈ l := fun b hb ↦
      List.mem_mergeSort.1 (hl ▸ List.mem_append_right before hb)
    rw [hsort, List.pairwise_append, List.pairwise_cons]
    refine ⟨hties.1, ⟨fun b hb ↦ ⟨hsorted.2.1.1 b hb, fun _ ↦ hfirst b (hafter b hb)⟩, hties.2.1⟩,
      fun b hb c hc ↦ ?_⟩
    rcases List.mem_cons.1 hc with rfl | hc
    · -- Only lesser elements are put before the first one.
      refine ⟨hsorted.2.2 b hb c List.mem_cons_self, fun hle ↦ ?_⟩
      have hnot := hgreater b hb
      rw [hle] at hnot
      exact absurd hnot (by decide)
    · exact hties.2.2 b hb c hc

namespace Row

/-- What a column shows as a text: that of the first column of this name, and the empty text for
NULL or when there is none. Letter case does not tell names apart. -/
inductive Shows (r : Row) (name : String) : String → Prop
  | value {before after : List (String × Cell)} {text : String}
      (h : r.columns = before ++ (Text.lower name, some text) :: after)
      (hfirst : ∀ c ∈ before, c.1 ≠ Text.lower name) : Shows r name text
  | null {before after : List (String × Cell)}
      (h : r.columns = before ++ (Text.lower name, none) :: after)
      (hfirst : ∀ c ∈ before, c.1 ≠ Text.lower name) : Shows r name ""
  | missing (h : ∀ c ∈ r.columns, c.1 ≠ Text.lower name) : Shows r name ""

theorem shows_text (r : Row) (name : String) : r.Shows name (r.text name) := by
  rw [text, get?]
  cases hfind : r.columns.find? (·.1 == Text.lower name) with
  | none =>
    exact .missing fun c hc ↦ by simpa using List.find?_eq_none.1 hfind c hc
  | some c =>
    obtain ⟨hname, before, after, hcolumns, hfirst⟩ := List.find?_eq_some_iff_append.1 hfind
    obtain ⟨name', cell⟩ := c
    obtain rfl : name' = Text.lower name := by simpa using hname
    have hbefore : ∀ c ∈ before, c.1 ≠ Text.lower name := fun c hc ↦ by simpa using hfirst c hc
    cases cell with
    | none => exact .null hcolumns hbefore
    | some text => exact .value hcolumns hbefore

/-- A column shows no other text. -/
theorem Shows.eq_text {r : Row} {name text : String} (h : r.Shows name text) :
    text = r.text name := by
  have hskip {columns : List (String × Cell)} (hfirst : ∀ c ∈ columns, c.1 ≠ Text.lower name) :
      columns.find? (·.1 == Text.lower name) = none :=
    List.find?_eq_none.2 fun c hc ↦ by simpa using hfirst c hc
  rw [Row.text, get?]
  cases h with
  | value h hfirst =>
    rw [h, List.find?_append, hskip hfirst, Option.none_or, List.find?_cons_of_pos (by simp)]
    rfl
  | null h hfirst =>
    rw [h, List.find?_append, hskip hfirst, Option.none_or, List.find?_cons_of_pos (by simp)]
    rfl
  | missing h =>
    rw [hskip h]
    rfl

end Row

namespace LogRecord

/-! ## What is chosen -/

/-- The moment of a row, if it can be read. -/
def momentOf? (row : Row) : Option Timestamp := Timestamp.read? (row.text "timestamp")

/-- The moment of the row at a place. -/
def momentAt? (rows : List Row) (i : Nat) : Option Timestamp := rows[i]?.bind momentOf?

/-- The timestamp of the row can be read. -/
def isReadable (row : Row) : Bool := (momentOf? row).isSome

/-- A text is kept but for one line feed at its end. -/
def IsKept (text kept : String) : Prop :=
  text = kept ++ "\n" ∨ kept = text ∧ ∀ before : String, text ≠ before ++ "\n"

/-- The record of a row: the texts of its columns, and its moment in UTC without what is finer than
milliseconds. -/
structure IsRecordOf (row : Row) (moment : Timestamp) (r : LogRecord) : Prop where
  timestamp : r.timestamp = moment.truncated.text
  read_timestamp : 0 ≤ moment.utcDate.year → moment.utcDate.year ≤ 9999 →
    Timestamp.read? r.timestamp = some moment.truncated
  moduleId : row.Shows "module_id" r.moduleId
  ecid : row.Shows "ecid" r.ecid
  message : ∃ text, row.Shows "message" text ∧ IsKept text r.message

/-- The row at a place is of an earlier moment than that at another place, or of the same moment and
comes first. -/
def StandsBefore (rows : List Row) (i j : Nat) : Prop :=
  ∃ m ∈ momentAt? rows i, ∃ n ∈ momentAt? rows j, m.IsBefore n ∨ m = n ∧ i < j

/-- The records are those of the rows at some places. These are the places of all rows that are
newer than a moment in whole milliseconds, in the order of their moments in full and, where these
are the same, in the order of the rows. -/
structure IsSelection (rows : List Row) (since : Timestamp) (places : List Nat)
    (records : List LogRecord) : Prop where
  mem_iff : ∀ i, i ∈ places ↔ ∃ m ∈ momentAt? rows i, since.millis < m.millis
  sorted : places.Pairwise (StandsBefore rows)
  shown : List.Forall₂ (fun i r ↦ ∃ row ∈ rows[i]?, ∃ m ∈ momentOf? row, IsRecordOf row m r)
    places records

/-! ## Only one list is chosen -/

theorem IsKept.unique {text kept kept' : String} (h : IsKept text kept) (h' : IsKept text kept') :
    kept = kept' := by
  rcases h with h | ⟨rfl, hnone⟩
  · rcases h' with h' | ⟨rfl, hnone⟩
    · exact (String.append_left_inj "\n").1 (h.symm.trans h')
    · exact absurd h (hnone kept)
  · rcases h' with h' | ⟨rfl, -⟩
    · exact absurd h' (hnone kept')
    · rfl

theorem IsRecordOf.unique {row : Row} {moment : Timestamp} {r r' : LogRecord}
    (h : IsRecordOf row moment r) (h' : IsRecordOf row moment r') : r = r' := by
  obtain ⟨text, hshows, hkept⟩ := h.message
  obtain ⟨text', hshows', hkept'⟩ := h'.message
  obtain rfl : text = text' := hshows.eq_text.trans hshows'.eq_text.symm
  have htimestamp := h.timestamp.trans h'.timestamp.symm
  have hmoduleId := h.moduleId.eq_text.trans h'.moduleId.eq_text.symm
  have hecid := h.ecid.eq_text.trans h'.ecid.eq_text.symm
  have hmessage := hkept.unique hkept'
  cases r
  cases r'
  exact (mk.injEq ..).mpr ⟨htimestamp, hmoduleId, hecid, hmessage⟩

theorem StandsBefore.asymm {rows : List Row} {i j : Nat} (h : StandsBefore rows i j) :
    ¬ StandsBefore rows j i := by
  obtain ⟨m, hm, n, hn, hbefore⟩ := h
  rintro ⟨n', hn', m', hm', hbehind⟩
  obtain rfl := Option.mem_unique hm hm'
  obtain rfl := Option.mem_unique hn hn'
  rw [Timestamp.IsBefore] at hbefore hbehind
  rcases hbefore with hbefore | ⟨rfl, hlt⟩
  · rcases hbehind with hbehind | ⟨rfl, -⟩
    · omega
    · omega
  · rcases hbehind with hbehind | ⟨-, hlt'⟩
    · omega
    · omega

theorem IsSelection.unique {rows : List Row} {since : Timestamp} {places places' : List Nat}
    {records records' : List LogRecord} (h : IsSelection rows since places records)
    (h' : IsSelection rows since places' records') : records = records' := by
  have hnodup {places : List Nat} (hsorted : places.Pairwise (StandsBefore rows)) :
      places.Nodup :=
    hsorted.imp fun {i j} hij heq ↦ by
      obtain rfl := heq
      exact hij.asymm hij
  have hperm : places.Perm places' :=
    (List.perm_ext_iff_of_nodup (hnodup h.sorted) (hnodup h'.sorted)).2 fun i ↦
      (h.mem_iff i).trans (h'.mem_iff i).symm
  obtain rfl : places = places' := hperm.eq_of_pairwise
    (fun i j _ _ hij hji ↦ absurd hji hij.asymm) h.sorted h'.sorted
  refine List.right_unique_forall₂' ?_ h.shown h'.shown
  rintro i r r' ⟨row, hrow, m, hm, hr⟩ ⟨row', hrow', m', hm', hr'⟩
  obtain rfl := Option.mem_unique hrow hrow'
  obtain rfl := Option.mem_unique hm hm'
  exact hr.unique hr'

/-! ## The record of a row -/

theorem isKept_dropLineFeed (text : String) : IsKept text (dropLineFeed text) := by
  rw [dropLineFeed]
  split
  · rename_i rest h
    have htext : text.toList = rest.reverse ++ ['\n'] := by
      rw [← List.reverse_reverse text.toList, h, List.reverse_cons]
    refine .inl ?_
    rw [← String.toList_inj, String.toList_append, String.toList_ofList, htext]
    rfl
  · rename_i hnone
    refine .inr ⟨rfl, fun before h ↦ hnone before.toList.reverse ?_⟩
    rw [h, String.toList_append, List.reverse_append]
    rfl

theorem isRecordOf_of_ofRow? {row : Row} {m : Timestamp} {r : LogRecord}
    (h : ofRow? row = some (m, r)) : momentOf? row = some m ∧ IsRecordOf row m r := by
  obtain ⟨moment, hread, heq⟩ := Option.map_eq_some_iff.1 h
  obtain ⟨rfl, rfl⟩ := Prod.mk.inj heq
  exact ⟨hread, (Timestamp.text_truncated moment).symm,
    fun hnonneg hle ↦ Timestamp.read?_text
      ((Timestamp.isMoment_of_read? hread).isShowable hnonneg hle),
    row.shows_text _, row.shows_text _, _, row.shows_text _, isKept_dropLineFeed _⟩

theorem exists_ofRow? {row : Row} {m : Timestamp} (h : momentOf? row = some m) :
    ∃ r, ofRow? row = some (m, r) :=
  ⟨_, congrArg (Option.map _) h⟩

/-- Exactly the rows that can be read have a record. -/
theorem isSome_ofRow? (row : Row) : (ofRow? row).isSome = isReadable row := by
  rw [ofRow?, Option.isSome_map, isReadable, momentOf?]

/-! ## Rows with their places -/

/-- The rows that can be read, with their places, moments and records. -/
def candidates (rows : List Row) : List (Nat × Timestamp × LogRecord) :=
  rows.zipIdx.filterMap fun p ↦ (ofRow? p.1).map fun e ↦ (p.2, e)

theorem map_candidates (rows : List Row) :
    (candidates rows).map (·.2) = rows.filterMap ofRow? := by
  have hrows : rows.filterMap ofRow? = rows.zipIdx.filterMap (ofRow? ∘ Prod.fst) := by
    rw [← List.filterMap_map, List.zipIdx_map_fst]
  rw [candidates, List.map_filterMap, hrows]
  refine List.filterMap_congr fun p _ ↦ ?_
  rw [Option.map_map]
  exact Option.map_id'

theorem mem_candidates {rows : List Row} {a : Nat × Timestamp × LogRecord} :
    a ∈ candidates rows ↔ ∃ row ∈ rows[a.1]?, ofRow? row = some a.2 := by
  obtain ⟨i, m, r⟩ := a
  rw [candidates, List.mem_filterMap]
  constructor
  · rintro ⟨⟨row, j⟩, hmem, heq⟩
    obtain ⟨e, hrow, heq⟩ := Option.map_eq_some_iff.1 heq
    obtain ⟨rfl, rfl⟩ := Prod.mk.inj heq
    exact ⟨row, List.mk_mem_zipIdx_iff_getElem?.1 hmem, hrow⟩
  · rintro ⟨row, hmem, hrow⟩
    exact ⟨(row, i), List.mk_mem_zipIdx_iff_getElem?.2 hmem, by rw [hrow]; rfl⟩

/-- Rows stand in the order of their places. -/
theorem pairwise_candidates (rows : List Row) :
    (candidates rows).Pairwise fun a b ↦ a.1 < b.1 := by
  have hplaces : rows.zipIdx.Pairwise fun p q ↦ p.2 < q.2 := by
    rw [← List.pairwise_map (f := Prod.snd) (R := (· < ·)), List.zipIdx_map_snd]
    exact List.pairwise_lt_range' 1
  refine hplaces.filterMap _ fun p q hlt a ha b hb ↦ ?_
  obtain ⟨_, -, rfl⟩ := Option.map_eq_some_iff.1 ha
  obtain ⟨_, -, rfl⟩ := Option.map_eq_some_iff.1 hb
  exact hlt

/-! ## The choice -/

/-- The candidates that are newer than a moment, sorted. -/
def chosen (rows : List Row) (since : Timestamp) : List (Nat × Timestamp × LogRecord) :=
  ((candidates rows).filter fun a ↦ since.millis < a.2.1.millis).mergeSort
    fun a b ↦ a.2.1.le b.2.1

theorem newer_eq_map_chosen (rows : List Row) (since : Timestamp) :
    newer rows since = (chosen rows since).map (·.2.2) := by
  have hsort := List.map_mergeSort (r := fun a b : Nat × Timestamp × LogRecord ↦ a.2.1.le b.2.1)
    (s := fun a b ↦ a.1.le b.1) (f := (·.2))
    (l := (candidates rows).filter fun a ↦ since.millis < a.2.1.millis) fun _ _ _ _ ↦ rfl
  have hnewer : newer rows since = ((chosen rows since).map (·.2)).map (·.2) := by
    rw [chosen, hsort, newer, ← map_candidates, List.filter_map]
    rfl
  rw [hnewer, List.map_map]
  rfl

theorem mem_chosen {rows : List Row} {since : Timestamp} {a : Nat × Timestamp × LogRecord} :
    a ∈ chosen rows since ↔
      (∃ row ∈ rows[a.1]?, ofRow? row = some a.2) ∧ since.millis < a.2.1.millis := by
  rw [chosen, List.mem_mergeSort, List.mem_filter, mem_candidates, decide_eq_true_eq]

theorem momentAt?_of_mem_chosen {rows : List Row} {since : Timestamp}
    {a : Nat × Timestamp × LogRecord} (h : a ∈ chosen rows since) :
    momentAt? rows a.1 = some a.2.1 := by
  obtain ⟨⟨row, hrow, hofRow⟩, -⟩ := mem_chosen.1 h
  rw [momentAt?, Option.mem_def.1 hrow, Option.bind_some, (isRecordOf_of_ofRow? hofRow).1]

theorem pairwise_chosen (rows : List Row) (since : Timestamp) :
    (chosen rows since).Pairwise fun a b ↦ a.2.1.IsBefore b.2.1 ∨ a.2.1 = b.2.1 ∧ a.1 < b.1 := by
  have htrans (a b c : Nat × Timestamp × LogRecord) :
      a.2.1.le b.2.1 = true → b.2.1.le c.2.1 = true → a.2.1.le c.2.1 = true := Timestamp.le_trans
  have hsorted := pairwise_mergeSort_ties htrans (fun _ _ ↦ Timestamp.le_total _ _)
    ((pairwise_candidates rows).filter fun a ↦ since.millis < a.2.1.millis)
  refine hsorted.imp fun {a b} h ↦ ?_
  by_cases hle : b.2.1.le a.2.1 = true
  · exact .inr ⟨Timestamp.le_antisymm h.1 hle, h.2 hle⟩
  · refine .inl ?_
    have hlt := h.1
    rw [Timestamp.le_iff] at hle hlt
    rw [Timestamp.IsBefore]
    omega

theorem isSelection_newer (rows : List Row) (since : Timestamp) :
    IsSelection rows since ((chosen rows since).map (·.1)) (newer rows since) where
  mem_iff i := by
    rw [List.mem_map]
    constructor
    · rintro ⟨a, ha, rfl⟩
      exact ⟨a.2.1, momentAt?_of_mem_chosen ha, (mem_chosen.1 ha).2⟩
    · rintro ⟨m, hm, hnew⟩
      obtain ⟨row, hrow, hmoment⟩ := Option.bind_eq_some_iff.1 hm
      obtain ⟨r, hofRow⟩ := exists_ofRow? hmoment
      exact ⟨(i, m, r), mem_chosen.2 ⟨⟨row, hrow, hofRow⟩, hnew⟩, rfl⟩
  sorted := by
    rw [List.pairwise_map]
    exact (pairwise_chosen rows since).imp_of_mem fun {a b} ha hb h ↦
      ⟨a.2.1, momentAt?_of_mem_chosen ha, b.2.1, momentAt?_of_mem_chosen hb, h⟩
  shown := by
    rw [newer_eq_map_chosen, List.forall₂_map_left_iff, List.forall₂_map_right_iff,
      List.forall₂_same]
    intro a ha
    obtain ⟨⟨row, hrow, hofRow⟩, -⟩ := mem_chosen.1 ha
    obtain ⟨hmoment, hrecord⟩ := isRecordOf_of_ofRow? hofRow
    exact ⟨row, hrow, a.2.1, hmoment, hrecord⟩

/-! ## Other rows -/

/-- Rows that cannot be read make no difference. -/
theorem newer_congr {rows rows' : List Row} (h : rows'.filter isReadable = rows.filter isReadable)
    (since : Timestamp) : newer rows' since = newer rows since := by
  have hreadable (rows : List Row) :
      rows.filterMap ofRow? = (rows.filter isReadable).filterMap ofRow? := by
    rw [List.filterMap_filter]
    refine List.filterMap_congr fun row _ ↦ ?_
    rw [← isSome_ofRow?]
    cases ofRow? row <;> rfl
  rw [newer, newer, hreadable, h, ← hreadable]

/-- The order of rows makes no difference when no two of them are of the same moment. -/
theorem newer_perm {rows rows' : List Row} (hperm : rows'.Perm rows) (hnodup : (moments rows).Nodup)
    (since : Timestamp) : newer rows' since = newer rows since := by
  have hentries := (hperm.filterMap ofRow?).filter fun e ↦ decide (since.millis < e.1.millis)
  rw [← map_filterMap_ofRow?] at hnodup
  have htrans (a b c : Timestamp × LogRecord) :
      a.1.le b.1 = true → b.1.le c.1 = true → a.1.le c.1 = true := Timestamp.le_trans
  have hsorted := List.pairwise_mergeSort htrans fun _ _ ↦ Timestamp.le_total _ _
  rw [newer, newer]
  congr 1
  refine List.Perm.eq_of_pairwise (fun a b ha hb hab hba ↦ ?_) (hsorted _) (hsorted _)
    (((List.mergeSort_perm _ _).trans hentries).trans (List.mergeSort_perm _ _).symm)
  -- Two that are as late as each other are of the same moment, and so they are the same.
  rw [List.mem_mergeSort] at ha hb
  exact List.inj_on_of_nodup_map hnodup (List.mem_of_mem_filter (hentries.mem_iff.1 ha))
    (List.mem_of_mem_filter hb) (Timestamp.le_antisymm hab hba)

/-- What is kept of rows are the records of exactly those that are newer, in the order of their
moments and otherwise in that of the rows, and no other list of records is that. Rows that cannot be
read change nothing in it. Neither does the order of the rows, when no two are of the same
moment. -/
theorem newer_isSelection (rows : List Row) (since : Timestamp) :
    (∀ records, (∃ places, IsSelection rows since places records) ↔ records = newer rows since) ∧
      (∀ rows' : List Row, rows'.filter isReadable = rows.filter isReadable →
        newer rows' since = newer rows since) ∧
      ∀ rows' : List Row, rows'.Perm rows → (moments rows).Nodup →
        newer rows' since = newer rows since := by
  have hnewer := isSelection_newer rows since
  refine ⟨fun records ↦ ⟨?_, ?_⟩, fun _ h ↦ newer_congr h since,
    fun _ hperm hnodup ↦ newer_perm hperm hnodup since⟩
  · rintro ⟨_, h⟩
    exact h.unique hnewer
  · rintro rfl
    exact ⟨_, hnewer⟩

/-- Two events of an evening, the later one first. -/
def eveningRows : List Row := LogFile.rowsAt ["2024-06-07T00:00:01Z", "2024-06-06 23:59:59.5"]

/-- The same with a row between them that cannot be read. -/
def unclearRows : List Row :=
  LogFile.rowsAt ["2024-06-07T00:00:01Z", "yesterday", "2024-06-06 23:59:59.5"]

theorem newer_isSelection_evening :
    (∃ places, IsSelection eveningRows sentinel places (newer eveningRows sentinel)) ∧
      unclearRows.filter isReadable = eveningRows.filter isReadable ∧
      newer unclearRows sentinel = newer eveningRows sentinel ∧
      eveningRows.reverse.Perm eveningRows ∧ (moments eveningRows).Nodup ∧
      newer eveningRows.reverse sentinel = newer eveningRows sentinel := by
  obtain ⟨hselection, hcongr, hperm⟩ := newer_isSelection eveningRows sentinel
  have hreadable : unclearRows.filter isReadable = eveningRows.filter isReadable := by
    decide +kernel
  have hnodup : (moments eveningRows).Nodup := by decide +kernel
  exact ⟨(hselection _).2 rfl, hreadable, hcongr unclearRows hreadable, eveningRows.reverse_perm,
    hnodup, hperm eveningRows.reverse eveningRows.reverse_perm hnodup⟩

end LogRecord

end Telemetry
