import Telemetry.Proofs.Log.Resume
import Telemetry.Proofs.Time.Reading

/-!
# Rows that come again

Rows that were appended should not be new when they come again. The moment to resume from is that
of the last record, so this rests on three orders: records are sorted by seconds and nanoseconds,
rows are new by their milliseconds, and a moment comes back from the file through its text.

The orders agree but for two things. Inside a leap second the milliseconds go past those of the
next second, so the last record need not have the most of them. And a year with more than four
digits is not read back, so the work begins again at the sentinel. `appendRecords_settles_iff` says
that nothing else goes wrong: a year before the year zero is not read back either, but then all of
the rows lie before the sentinel.
-/

namespace Telemetry

namespace LogRecord

/-! ## The moments of rows -/

/-- The moments of rows, as far as they can be read. -/
def moments (rows : List Row) : List Timestamp :=
  rows.filterMap fun row ↦ Timestamp.read? (row.text "timestamp")

/-- The moments of rows that are newer than a moment by at least a millisecond. -/
def newMoments (rows : List Row) (since : Timestamp) : List Timestamp :=
  (moments rows).filter fun m ↦ since.millis < m.millis

/-- The moment is one of these, and none of them is later. -/
def IsNewest (newest : Timestamp) (moments : List Timestamp) : Prop :=
  newest ∈ moments ∧ ∀ m ∈ moments, m.le newest = true

instance (newest : Timestamp) (moments : List Timestamp) : Decidable (IsNewest newest moments) :=
  inferInstanceAs (Decidable (_ ∧ _))

theorem IsNewest.unique {newest newest' : Timestamp} {moments : List Timestamp}
    (h : IsNewest newest moments) (h' : IsNewest newest' moments) : newest = newest' :=
  Timestamp.le_antisymm (h'.2 newest h.1) (h.2 newest' h'.1)

theorem mem_newMoments {rows : List Row} {since m : Timestamp} :
    m ∈ newMoments rows since ↔ m ∈ moments rows ∧ since.millis < m.millis := by
  rw [newMoments, List.mem_filter, decide_eq_true_eq]

theorem isMoment_of_mem_moments {rows : List Row} {m : Timestamp} (h : m ∈ moments rows) :
    m.IsMoment := by
  obtain ⟨row, -, hread⟩ := List.mem_filterMap.1 h
  exact Timestamp.isMoment_of_read? hread

theorem map_filterMap_ofRow? (rows : List Row) :
    (rows.filterMap ofRow?).map (·.1) = moments rows := by
  rw [List.map_filterMap, moments]
  refine List.filterMap_congr fun row _ ↦ ?_
  rw [ofRow?, Option.map_map]
  exact Option.map_id'

theorem newer_eq_nil_iff {rows : List Row} {since : Timestamp} :
    newer rows since = [] ↔ ∀ m ∈ moments rows, m.millis ≤ since.millis := by
  have hlength (l : List (Timestamp × LogRecord)) :
      l.mergeSort (fun a b ↦ a.1.le b.1) = [] ↔ l = [] := by
    rw [← List.length_eq_zero_iff, List.length_mergeSort, List.length_eq_zero_iff]
  rw [newer, List.map_eq_nil_iff, hlength, List.filter_eq_nil_iff, ← map_filterMap_ofRow?]
  simp only [decide_eq_true_eq, Int.not_lt, List.forall_mem_map]

theorem newer_ne_nil_of_isNewest {rows : List Row} {since newest : Timestamp}
    (h : IsNewest newest (newMoments rows since)) : newer rows since ≠ [] := fun hnil ↦ by
  obtain ⟨hmem, hsince⟩ := mem_newMoments.1 h.1
  exact absurd (newer_eq_nil_iff.1 hnil newest hmem) (Int.not_le.2 hsince)

/-- The last of the records that are new is that of the newest moment. -/
theorem exists_newer_eq_concat {rows : List Row} {since : Timestamp}
    (h : newer rows since ≠ []) :
    ∃ records last newest, newer rows since = records ++ [last] ∧
      last.timestamp = newest.text ∧ IsNewest newest (newMoments rows since) := by
  have htrans (a b c : Timestamp × LogRecord) (hab : a.1.le b.1 = true)
      (hbc : b.1.le c.1 = true) : a.1.le c.1 = true := Timestamp.le_trans hab hbc
  have htotal (a b : Timestamp × LogRecord) : (a.1.le b.1 || b.1.le a.1) = true :=
    Timestamp.le_total _ _
  have hnew : newMoments rows since =
      ((rows.filterMap ofRow?).filter fun e ↦ since.millis < e.1.millis).map (·.1) := by
    rw [newMoments, ← map_filterMap_ofRow?, List.filter_map]
    rfl
  rw [newer] at h ⊢
  generalize hentries : ((rows.filterMap ofRow?).filter fun e ↦ since.millis < e.1.millis) =
    entries at h hnew ⊢
  have hsorted := List.pairwise_mergeSort htrans htotal entries
  have hmem (e : Timestamp × LogRecord) : e ∈ entries.mergeSort (fun a b ↦ a.1.le b.1) ↔
      e ∈ entries := (List.mergeSort_perm _ _).mem_iff
  rcases List.eq_nil_or_concat' (entries.mergeSort fun a b ↦ a.1.le b.1) with
    hnil | ⟨init, last, hlast⟩
  · rw [hnil] at h
    exact absurd rfl h
  · rw [hlast] at hsorted hmem ⊢
    have hlastmem : last ∈ entries := (hmem last).1 List.mem_concat_self
    have hrow := hlastmem
    rw [← hentries, List.mem_filter, List.mem_filterMap] at hrow
    obtain ⟨⟨row, -, hofRow⟩, -⟩ := hrow
    refine ⟨init.map (·.2), last.2, last.1, List.map_append, ?_, ?_, fun m hm ↦ ?_⟩
    · rw [ofRow?, Option.map_eq_some_iff] at hofRow
      obtain ⟨moment, -, rfl⟩ := hofRow
      rfl
    · rw [hnew]
      exact List.mem_map_of_mem hlastmem
    · rw [hnew] at hm
      obtain ⟨e, he, rfl⟩ := List.mem_map.1 hm
      rcases List.mem_append.1 ((hmem e).2 he) with he | he
      · exact (List.pairwise_append.1 hsorted).2.2 e he last List.mem_cons_self
      · rw [List.mem_singleton.1 he]
        exact Timestamp.le_refl _

/-! ## The moment to resume from -/

/-- The moment to resume from has moved on, and from there the rows bring nothing new. -/
structure Settles (rows : List Row) (since next : Timestamp) : Prop where
  forward : since.millis < next.millis
  nothing_new : newer rows next = []

/-- A moment with a year of four digits is resumed from as it is. The rows then bring nothing new
when no other has more milliseconds. -/
theorem settles_iff_of_millis_eq {rows : List Row} {since newest next : Timestamp}
    (hnewest : IsNewest newest (newMoments rows since)) (hnext : next.millis = newest.millis) :
    Settles rows since next ↔ ∀ m ∈ newMoments rows since, m.millis ≤ newest.millis := by
  have hsince := (mem_newMoments.1 hnewest.1).2
  constructor
  · rintro ⟨-, hnothing⟩ m hm
    rw [← hnext]
    exact newer_eq_nil_iff.1 hnothing m (mem_newMoments.1 hm).1
  · intro hmost
    refine ⟨hnext ▸ hsince, newer_eq_nil_iff.2 fun m hm ↦ ?_⟩
    by_cases hnew : since.millis < m.millis
    · rw [hnext]
      exact hmost m (mem_newMoments.2 ⟨hm, hnew⟩)
    · omega

theorem millis_sentinel : sentinel.millis = -2208985138999 := by decide

/-- After a moment with more than four digits for its year, the work begins again. -/
theorem not_settles_sentinel {rows : List Row} {since newest : Timestamp}
    (hnewest : IsNewest newest (newMoments rows since)) (hyear : 9999 < newest.utcDate.year) :
    ¬ Settles rows since sentinel := by
  rintro ⟨-, hnothing⟩
  have hold := newer_eq_nil_iff.1 hnothing newest (mem_newMoments.1 hnewest.1).1
  have hdays : ¬ newest.seconds / 86400 < 0 := fun hdays ↦ by
    have hle := Date.year_ofDays_le hdays
    rw [Timestamp.utcDate] at hyear
    omega
  rw [millis_sentinel, Timestamp.millis] at hold
  omega

/-- Before the year zero, all that can be new lies before the sentinel. -/
theorem settles_sentinel {rows : List Row} {since newest : Timestamp}
    (hnewest : IsNewest newest (newMoments rows since)) (hyear : newest.utcDate.year < 0) :
    Settles rows since sentinel := by
  have hseconds : newest.seconds < -62162035200 := by
    by_contra hge
    have hnonneg : 0 ≤ newest.utcDate.year := Date.year_ofDays_nonneg (by omega)
    omega
  -- Even inside a leap second, no moment up to the newest comes near the sentinel.
  have hbefore : ∀ m ∈ newMoments rows since, m.millis < sentinel.millis := by
    intro m hm
    have hnanos := (isMoment_of_mem_moments (mem_newMoments.1 hm).1).nanos_lt
    have hle := (Timestamp.le_iff m newest).1 (hnewest.2 m hm)
    rw [millis_sentinel, Timestamp.millis]
    omega
  have hsince := (mem_newMoments.1 hnewest.1).2
  have hforward := Int.lt_trans hsince (hbefore newest hnewest.1)
  refine ⟨hforward, newer_eq_nil_iff.2 fun m hm ↦ ?_⟩
  by_cases hnew : since.millis < m.millis
  · exact Int.le_of_lt (hbefore m (mem_newMoments.2 ⟨hm, hnew⟩))
  · omega

/-- What is resumed from after the newest moment of some rows. -/
theorem settles_iff {rows : List Row} {since newest : Timestamp}
    (hnewest : IsNewest newest (newMoments rows since)) :
    Settles rows since ((Timestamp.read? newest.text).getD sentinel) ↔
      newest.utcDate.year ≤ 9999 ∧ (0 ≤ newest.utcDate.year →
        ∀ m ∈ newMoments rows since, m.millis ≤ newest.millis) := by
  have hmoment := isMoment_of_mem_moments (mem_newMoments.1 hnewest.1).1
  rcases Int.lt_or_le newest.utcDate.year 0 with hneg | hnonneg
  · rw [Timestamp.read?_text_eq_none hmoment (.inl hneg), Option.getD_none]
    exact iff_of_true (settles_sentinel hnewest hneg) ⟨by omega, fun h ↦ by omega⟩
  rcases Int.lt_or_le 9999 newest.utcDate.year with hmore | hle
  · rw [Timestamp.read?_text_eq_none hmoment (.inr hmore), Option.getD_none]
    exact iff_of_false (not_settles_sentinel hnewest hmore) fun h ↦ by omega
  · rw [Timestamp.read?_text (hmoment.isShowable hnonneg hle), Option.getD_some,
      settles_iff_of_millis_eq hnewest (Timestamp.millis_truncated newest)]
    exact ⟨fun h ↦ ⟨hle, fun _ ↦ h⟩, fun h ↦ h.2 hnonneg⟩

end LogRecord

namespace LogFile

/-- Behind lines that are ended, the new records of rows are resumed from at the newest of their
moments. -/
theorem readCursor_append_newer {fs : Files} {path : String} {content : List UInt8}
    {rows : List Row} {since newest : Timestamp} (hread : fs.read path = .ok content)
    (hterminated : IsTerminated content)
    (hnewest : LogRecord.IsNewest newest (LogRecord.newMoments rows since)) :
    ∃ fs', appendRecords fs path (LogRecord.newer rows since) = .ok fs' ∧
      readCursor fs' path = .ok ((Timestamp.read? newest.text).getD LogRecord.sentinel) := by
  have hblank : IsBlankLine (openTail content) := by
    rw [openTail_of_isTerminated hterminated]
    exact isBlankLine_nil
  obtain ⟨fs', happend, hread'⟩ := exists_appendRecords hread (LogRecord.newer rows since)
  obtain ⟨records, last, newest', hrecords, hstamp, hnewest'⟩ :=
    LogRecord.exists_newer_eq_concat (LogRecord.newer_ne_nil_of_isNewest hnewest)
  obtain rfl : newest = newest' := hnewest.unique hnewest'
  refine ⟨fs', happend, ?_⟩
  rw [readCursor, hread', Except.map, hrecords, cursor_append_encode_concat hblank, hstamp]

/-- New records can be appended to every file whose lines are ended. The file then gives a moment to
resume from that is newer by milliseconds, and the same rows bring nothing new from there, exactly
when the newest of their new moments lies in a year up to 9999 and, unless it lies before the year
zero, none has more milliseconds. -/
theorem appendRecords_settles_iff {fs : Files} {path : String} {content : List UInt8}
    {rows : List Row} {since : Timestamp} (hread : fs.read path = .ok content)
    (hterminated : IsTerminated content)
    (hnew : LogRecord.newer rows since ≠ []) :
    ∃ fs' next, appendRecords fs path (LogRecord.newer rows since) = .ok fs' ∧
      readCursor fs' path = .ok next ∧
      (LogRecord.Settles rows since next ↔
        ∃ newest, LogRecord.IsNewest newest (LogRecord.newMoments rows since) ∧
          newest.utcDate.year ≤ 9999 ∧ (0 ≤ newest.utcDate.year →
            ∀ m ∈ LogRecord.newMoments rows since, m.millis ≤ newest.millis)) := by
  obtain ⟨-, -, newest, -, -, hnewest⟩ := LogRecord.exists_newer_eq_concat hnew
  obtain ⟨fs', happend, hcursor⟩ := readCursor_append_newer hread hterminated hnewest
  refine ⟨fs', _, happend, hcursor, ?_⟩
  rw [LogRecord.settles_iff hnewest]
  refine ⟨fun h ↦ ⟨newest, hnewest, h⟩, ?_⟩
  rintro ⟨newest', hnewest', h⟩
  rwa [hnewest.unique hnewest']

/-! ### A leap second

An event comes half a second into a leap second, and one a fifth of a second behind it. The second
one is later, but has fewer milliseconds. -/

/-- Rows with events at some moments. -/
def rowsAt (timestamps : List String) : List Row :=
  timestamps.map fun timestamp ↦
    ⟨[("timestamp", some timestamp), ("module_id", some "m"), ("ecid", some "e"),
      ("message", some "text")]⟩

def leapRows : List Row := rowsAt ["2016-12-31T23:59:60.500Z", "2017-01-01T00:00:00.200Z"]

theorem isNewest_leapRows : LogRecord.IsNewest ⟨1483228800, 200000000⟩
    (LogRecord.newMoments leapRows LogRecord.sentinel) := by decide +kernel

/-- The event inside the leap second is new again as soon as both were appended. -/
theorem not_settles_leapRows :
    ∃ fs' next, appendRecords (filesWith []) "a.log"
        (LogRecord.newer leapRows LogRecord.sentinel) = .ok fs' ∧
      readCursor fs' "a.log" = .ok next ∧ LogRecord.newer leapRows next ≠ [] := by
  obtain ⟨fs', happend, hcursor⟩ :=
    readCursor_append_newer (read_filesWith []) (.inl rfl) isNewest_leapRows
  refine ⟨fs', _, happend, hcursor, fun hnil ↦ ?_⟩
  have hle := LogRecord.newer_eq_nil_iff.1 hnil ⟨1483228799, 1500000000⟩ (by decide +kernel)
  exact absurd hle (by decide +kernel)

/-- Rows of ordinary days, the later one first, bring nothing new when they come again. -/
theorem appendRecords_settles_ordinary :
    ∃ fs' next, appendRecords (filesWith (encode [eveningRecord])) "a.log"
        (LogRecord.newer (rowsAt ["2024-06-07T00:00:01Z", "2024-06-06 23:59:59.5"]) eveningMoment) =
          .ok fs' ∧
      readCursor fs' "a.log" = .ok next ∧
      LogRecord.Settles (rowsAt ["2024-06-07T00:00:01Z", "2024-06-06 23:59:59.5"]) eveningMoment
        next := by
  have hnewest : LogRecord.IsNewest ⟨1717718401, 0⟩ (LogRecord.newMoments
      (rowsAt ["2024-06-07T00:00:01Z", "2024-06-06 23:59:59.5"]) eveningMoment) := by
    decide +kernel
  obtain ⟨fs', next, happend, hcursor, hiff⟩ := appendRecords_settles_iff
    (read_filesWith (encode [eveningRecord])) (isTerminated_encode [eveningRecord])
    (LogRecord.newer_ne_nil_of_isNewest hnewest)
  exact ⟨fs', next, happend, hcursor,
    hiff.2 ⟨_, hnewest, by decide +kernel, fun _ ↦ by decide +kernel⟩⟩

end LogFile

end Telemetry
