import Mathlib.Data.List.Forall2
import Telemetry.Proofs.Log.Tail
import Telemetry.Proofs.Time.Timestamp
import Telemetry.Rehearsal

/-!
# Every event once

The tailing of one target keeps no state about what it has appended: where to resume is read off
the file each time. This is enough for every event to be in the file once, however often the
database sends it again and in whatever order, as long as new events are a millisecond newer than
all that were delivered before.

## The invariant

`Replicated` says that the file is the encoding of a list of events which is sorted by time and is,
but for its order, the list of the events delivered so far. Sorting makes the last line the newest
event, and the cursor that event's moment, cut off to milliseconds (`cursor_of_events`). All
delivered events are then at or below the cursor and all new ones above it, so a cycle appends the
new ones and nothing else (`newer_of_delivery`).
-/

namespace Telemetry

/-- An event of a server's log. -/
structure LogEvent where
  moment : Timestamp
  moduleId : String
  ecid : String
  message : String
  deriving DecidableEq, Repr

namespace LogEvent

/-- The record that is kept of an event. -/
def record (e : LogEvent) : LogRecord :=
  ⟨e.moment.text, e.moduleId, e.ecid, LogRecord.dropLineFeed e.message⟩

/-- The event is no later than the other. -/
def le (a b : LogEvent) : Bool := a.moment.le b.moment

theorem le_trans (a b c : LogEvent) (hab : a.le b = true) (hbc : b.le c = true) :
    a.le c = true := Timestamp.le_trans hab hbc

theorem le_total (a b : LogEvent) : (a.le b || b.le a) = true := Timestamp.le_total _ _

/-- The row shows the event, with its moment in any spelling that can be read. -/
structure IsShownBy (e : LogEvent) (row : Row) : Prop where
  moment : Timestamp.read? (row.text "timestamp") = some e.moment
  moduleId : row.text "module_id" = e.moduleId
  ecid : row.text "ecid" = e.ecid
  message : row.text "message" = e.message

/-- An event outside of leap seconds, at least a millisecond after the sentinel, and not after the
year 9999. -/
structure IsRegular (e : LogEvent) : Prop where
  nanos_lt : e.moment.nanos < 1000000000
  after_sentinel : LogRecord.sentinel.IsMillisecondBefore e.moment
  year_le : e.moment.utcDate.year ≤ 9999

instance (e : LogEvent) (row : Row) : Decidable (e.IsShownBy row) :=
  decidable_of_iff (Timestamp.read? (row.text "timestamp") = some e.moment ∧
      row.text "module_id" = e.moduleId ∧ row.text "ecid" = e.ecid ∧ row.text "message" = e.message)
    ⟨fun ⟨h₁, h₂, h₃, h₄⟩ ↦ ⟨h₁, h₂, h₃, h₄⟩, fun ⟨h₁, h₂, h₃, h₄⟩ ↦ ⟨h₁, h₂, h₃, h₄⟩⟩

instance (e : LogEvent) : Decidable e.IsRegular :=
  decidable_of_iff (e.moment.nanos < 1000000000 ∧
      LogRecord.sentinel.IsMillisecondBefore e.moment ∧ e.moment.utcDate.year ≤ 9999)
    ⟨fun ⟨h₁, h₂, h₃⟩ ↦ ⟨h₁, h₂, h₃⟩, fun ⟨h₁, h₂, h₃⟩ ↦ ⟨h₁, h₂, h₃⟩⟩

theorem IsRegular.isShowable {e : LogEvent} (h : e.IsRegular) : e.moment.IsShowable := by
  have hafter : LogRecord.sentinel.sinceEpoch + 1000000 ≤ e.moment.sinceEpoch := h.after_sentinel
  have hsentinel : LogRecord.sentinel.sinceEpoch = -2208985138999000000 := by decide
  have hnanos := h.nanos_lt
  rw [hsentinel, Timestamp.sinceEpoch] at hafter
  exact ⟨Date.year_ofDays_nonneg (by omega), h.year_le, Nat.lt_trans hnanos (by decide),
    fun hleap ↦ absurd hleap (Nat.not_le.2 hnanos)⟩

theorem ofRow?_of_isShownBy {e : LogEvent} {row : Row} (h : e.IsShownBy row) :
    LogRecord.ofRow? row = some (e.moment, e.record) := by
  rw [LogRecord.ofRow?, h.moment, h.moduleId, h.ecid, h.message]
  rfl

theorem filterMap_ofRow? {shown : List LogEvent} {rows : List Row}
    (h : List.Forall₂ IsShownBy shown rows) :
    rows.filterMap LogRecord.ofRow? = shown.map fun e ↦ (e.moment, e.record) := by
  induction h with
  | nil => rfl
  | cons hrow _ ih =>
    rw [List.filterMap_cons_some (ofRow?_of_isShownBy hrow), List.map_cons, ih]

/-- Of the events that rows show, those after a moment are kept, sorted. -/
theorem newer_of_shown {shown : List LogEvent} {rows : List Row}
    (h : List.Forall₂ IsShownBy shown rows) (since : Timestamp) :
    LogRecord.newer rows since =
      ((shown.filter fun e ↦ since.millis < e.moment.millis).mergeSort le).map record := by
  have hsort := List.map_mergeSort (r := le) (s := fun a b ↦ a.1.le b.1)
    (f := fun e ↦ (e.moment, e.record))
    (l := shown.filter fun e ↦ since.millis < e.moment.millis) fun _ _ _ _ ↦ rfl
  rw [LogRecord.newer, filterMap_ofRow? h, List.filter_map]
  change ((List.map (fun e ↦ (e.moment, e.record))
    (shown.filter fun e ↦ since.millis < e.moment.millis)).mergeSort
      fun a b ↦ a.1.le b.1).map (·.2) = _
  rw [← hsort, List.map_map]
  rfl

/-! ## One delivery -/

/-- The rows of a query show events that were delivered before, any number of times, and new
events once each, all in any order. New events are regular, and at least a millisecond newer than
those delivered before. -/
structure IsDelivery (delivered fresh : List LogEvent) (rows : List Row) : Prop where
  shown : ∃ old shown : List LogEvent, (∀ e ∈ old, e ∈ delivered) ∧ shown.Perm (old ++ fresh) ∧
    List.Forall₂ IsShownBy shown rows
  regular : ∀ e ∈ fresh, e.IsRegular
  newer : ∀ d ∈ delivered, ∀ e ∈ fresh, d.moment.IsMillisecondBefore e.moment

/-- The moment to resume from after some events: the sentinel, or the newest of them. -/
def ResumesAfter (since : Timestamp) (events : List LogEvent) : Prop :=
  (events = [] ∧ since = LogRecord.sentinel) ∨
    ∃ newest ∈ events, (∀ e ∈ events, e.le newest = true) ∧ since = newest.moment.truncated

/-- The cursor of a file is the moment of the newest of its events. -/
theorem cursor_of_events {events : List LogEvent} (hregular : ∀ e ∈ events, e.IsRegular)
    (hsorted : events.Pairwise fun a b ↦ a.le b = true) :
    ResumesAfter (LogFile.cursor (LogFile.encode (events.map record))) events := by
  rcases List.eq_nil_or_concat events with rfl | ⟨init, newest, rfl⟩
  · exact .inl ⟨rfl, LogFile.cursor_nil⟩
  · rw [List.concat_eq_append] at hregular hsorted ⊢
    have hnewest : newest ∈ init ++ [newest] := List.mem_append_right _ List.mem_cons_self
    refine .inr ⟨newest, hnewest, fun e he ↦ ?_, ?_⟩
    · rcases List.mem_append.1 he with he | he
      · exact (List.pairwise_append.1 hsorted).2.2 e he newest List.mem_cons_self
      · rw [List.mem_singleton.1 he]
        exact Timestamp.le_refl _
    · rw [List.map_append, List.map_singleton, LogFile.cursor_encode_concat]
      change (Timestamp.read? newest.moment.text).getD _ = _
      rw [Timestamp.read?_text (hregular newest hnewest).isShowable, Option.getD_some]

/-- Of a delivery, the new events are what is newer than the moment to resume from. -/
theorem newer_of_delivery {delivered events fresh : List LogEvent} {rows : List Row}
    {since : Timestamp} (hevents : events.Perm delivered)
    (hregular : ∀ e ∈ delivered, e.IsRegular) (hsince : ResumesAfter since events)
    (hdelivery : IsDelivery delivered fresh rows) :
    ∃ appended : List LogEvent, appended.Perm fresh ∧
      (appended.Pairwise fun a b ↦ a.le b = true) ∧
      LogRecord.newer rows since = appended.map record := by
  obtain ⟨⟨old, shown, hold, hperm, hshown⟩, hfresh, hnewer⟩ := hdelivery
  -- Whatever was delivered before is at or below the moment to resume from.
  have hdrop : ∀ e ∈ old, ¬ since.millis < e.moment.millis := by
    intro e he
    have hmem : e ∈ events := hevents.mem_iff.2 (hold e he)
    rcases hsince with ⟨rfl, -⟩ | ⟨newest, hnewest, hle, rfl⟩
    · exact absurd hmem List.not_mem_nil
    · have hlast := (hregular newest (hevents.mem_iff.1 hnewest)).nanos_lt
      have horder := (Timestamp.le_iff_sinceEpoch (hregular e (hold e he)).nanos_lt hlast).1
        (hle e hmem)
      rw [Timestamp.millis_truncated, Timestamp.millis_eq, Timestamp.millis_eq]
      omega
  -- Whatever is new is above it.
  have hkeep : ∀ e ∈ fresh, since.millis < e.moment.millis := by
    intro e he
    rcases hsince with ⟨-, rfl⟩ | ⟨newest, hnewest, -, rfl⟩
    · exact (hfresh e he).after_sentinel.millis_lt
    · rw [Timestamp.millis_truncated]
      exact (hnewer newest (hevents.mem_iff.1 hnewest) e he).millis_lt
  have hfilter : (shown.filter fun e ↦ since.millis < e.moment.millis).Perm fresh := by
    have hnone : (old.filter fun e ↦ since.millis < e.moment.millis) = [] :=
      List.filter_eq_nil_iff.2 fun e he ↦ by rw [decide_eq_true_eq]; exact hdrop e he
    have hall : (fresh.filter fun e ↦ since.millis < e.moment.millis) = fresh :=
      List.filter_eq_self.2 fun e he ↦ decide_eq_true (hkeep e he)
    have hsplit := hperm.filter fun e ↦ decide (since.millis < e.moment.millis)
    rwa [List.filter_append, hnone, hall, List.nil_append] at hsplit
  refine ⟨_, (List.mergeSort_perm _ le).trans hfilter, ?_, newer_of_shown hshown since⟩
  exact List.pairwise_mergeSort le_trans le_total _

end LogEvent

/-! ## The file -/

namespace LogFile

/-- There is no log file. -/
def IsMissing (path : String) (fs : Files) : Prop :=
  ∀ content, fs.at? (Files.namedPlace path) ≠ some (.file content)

/-- Changes to files that leave a log file as it is, or add it without content. -/
structure IsKept (path : String) (fs fs' : Files) : Prop where
  read : ∀ content, fs.read path = .ok content → fs'.read path = .ok content
  file_cases : ∀ content, fs'.at? (Files.namedPlace path) = some (.file content) →
    fs.at? (Files.namedPlace path) = some (.file content) ∨ content = [] ∧ fs'.read path = .ok []

theorem IsKept.refl (path : String) (fs : Files) : IsKept path fs fs :=
  ⟨fun _ h ↦ h, fun _ h ↦ .inl h⟩

theorem isKept_ensure (path : String) (fs : Files) : IsKept path fs (fs.ensure path).2 := by
  obtain ⟨hkeeps, hcases⟩ := Files.addsAtMostEmpty_ensure fs path
  exact ⟨fun _ h ↦ hkeeps.read h, fun content h ↦ (hcases _ content h).imp_right And.right⟩

/-- The file holds the events that were delivered, once each and in the order of time. There may be
no file as long as there are none. -/
def Replicated (path : String) (fs : Files) (delivered : List LogEvent) : Prop :=
  (∀ e ∈ delivered, e.IsRegular) ∧
  ∃ events : List LogEvent, events.Perm delivered ∧
    (events.Pairwise fun a b ↦ a.le b = true) ∧
    (IsMissing path fs ∧ delivered = [] ∨
      fs.read path = .ok (encode (events.map LogEvent.record)))

theorem replicated_nil {path : String} {fs : Files} (h : IsMissing path fs) :
    Replicated path fs [] :=
  ⟨nofun, [], List.Perm.refl [], List.Pairwise.nil, .inl ⟨h, rfl⟩⟩

theorem Replicated.keep {path : String} {fs fs' : Files} {delivered : List LogEvent}
    (h : Replicated path fs delivered) (hkept : IsKept path fs fs') :
    Replicated path fs' delivered := by
  obtain ⟨hregular, events, hperm, hsorted, ⟨hmissing, rfl⟩ | hread⟩ := h
  · refine ⟨hregular, events, hperm, hsorted, ?_⟩
    by_cases hfile : IsMissing path fs'
    · exact .inl ⟨hfile, rfl⟩
    · obtain ⟨content, hcontent⟩ := Classical.not_forall.1 hfile
      rcases hkept.file_cases content (Classical.not_not.1 hcontent) with hold | ⟨-, hread⟩
      · exact absurd hold (hmissing content)
      · rw [List.perm_nil.1 hperm]
        exact .inr hread
  · exact ⟨hregular, events, hperm, hsorted, .inr (hkept.read _ hread)⟩

/-- Records that are newer than the cursor are appended in place. -/
theorem Replicated.deliver {path : String} {fs fs' : Files} {content : List UInt8}
    {delivered fresh : List LogEvent} {rows : List Row} (h : Replicated path fs delivered)
    (hread : fs.read path = .ok content) (hdelivery : LogEvent.IsDelivery delivered fresh rows)
    (happend : fs'.read path =
      .ok (content ++ encode (LogRecord.newer rows (cursor content)))) :
    Replicated path fs' (delivered ++ fresh) := by
  obtain ⟨hregular, events, hperm, hsorted, ⟨hmissing, -⟩ | hevents⟩ := h
  · exact absurd (Files.read_eq_ok.1 hread).2 (hmissing content)
  · obtain rfl : encode (events.map LogEvent.record) = content :=
      Except.ok.inj (hevents.symm.trans hread)
    have hcursor := LogEvent.cursor_of_events
      (fun e he ↦ hregular e (hperm.mem_iff.1 he)) hsorted
    obtain ⟨appended, hfresh, horder, hnewer⟩ :=
      LogEvent.newer_of_delivery hperm hregular hcursor hdelivery
    -- The new records fit behind the old ones, because what is newer is newer by a millisecond.
    have hboth : ∀ e ∈ delivered ++ fresh, e.IsRegular := fun e he ↦
      (List.mem_append.1 he).elim (hregular e) (hdelivery.regular e)
    refine ⟨hboth, events ++ appended, hperm.append hfresh, ?_, .inr ?_⟩
    · refine List.pairwise_append.2 ⟨hsorted, horder, fun d hd e he ↦ ?_⟩
      have hd := hperm.mem_iff.1 hd
      have he := hfresh.mem_iff.1 he
      have hbefore := hdelivery.newer d hd e he
      rw [LogEvent.le, Timestamp.le_iff_sinceEpoch (hregular d hd).nanos_lt
        (hdelivery.regular e he).nanos_lt]
      rw [Timestamp.IsMillisecondBefore] at hbefore
      omega
    · rw [happend, hnewer, List.map_append, encode_append]

end LogFile

/-! ## Runs -/

/-- The tailing of one target. -/
structure Tailing (σ : Type) where
  state : TailState
  connection : Connection σ
  files : Files
  now : Instant

namespace Tailing

variable {σ : Type} (server : Clocked σ) (limits : ConnectionLimits) (log : LogSettings)

/-- What a cycle has found out before it appends anything. -/
def ask (t : Tailing σ) : Tail.Inquiry σ :=
  Tail.ask server limits log t.state t.files t.now t.connection

/-- One cycle. -/
def cycle (t : Tailing σ) : Tailing σ :=
  let cycle := Tail.cycle server limits log t.state t.files t.now t.connection
  ⟨cycle.outcome.update t.state, cycle.connection, cycle.files, cycle.now⟩

/-- A run of the tailing of a target that begins without a log file, with the events that were
delivered in it. Between its cycles time passes, and others use the connection and write other
files; a cycle whose bytes cannot be written is such a step too. -/
inductive Delivers (target : Target) : Tailing σ → List LogEvent → Prop where
  | start {t : Tailing σ} (htarget : t.connection.target = target)
    (hmissing : LogFile.IsMissing (log.destinationFor target.name) t.files) :
    Delivers target t []
  | between {t t' : Tailing σ} {delivered : List LogEvent} (h : Delivers target t delivered)
    (hstate : t'.state = t.state) (htarget : t'.connection.target = target)
    (hfiles : LogFile.IsKept (log.destinationFor target.name) t.files t'.files)
    (hnow : t.now ≤ t'.now) : Delivers target t' delivered
  /-- A cycle that is skipped, or fails before it has rows. -/
  | unanswered {t : Tailing σ} {delivered : List LogEvent} {outcome : Tail.Outcome}
    (h : Delivers target t delivered)
    (hanswer : (t.ask server limits log).answer = .error outcome) :
    Delivers target (t.cycle server limits log) delivered
  | answered {t : Tailing σ} {delivered fresh : List LogEvent} {since : Timestamp}
    {rows : List Row} (h : Delivers target t delivered)
    (hanswer : (t.ask server limits log).answer = .ok (since, rows))
    (hrows : LogEvent.IsDelivery delivered fresh rows) :
    Delivers target (t.cycle server limits log) (delivered ++ fresh)

variable {server limits log} {target : Target}

theorem cycle_of_error {t : Tailing σ} {outcome : Tail.Outcome}
    (h : (t.ask server limits log).answer = .error outcome) :
    t.cycle server limits log = ⟨outcome.update t.state, (t.ask server limits log).connection,
      (t.ask server limits log).files, (t.ask server limits log).now⟩ := by
  rw [ask] at h
  rw [cycle, Tail.cycle, h]
  rfl

theorem cycle_of_ok {t : Tailing σ} {since : Timestamp} {rows : List Row}
    (h : (t.ask server limits log).answer = .ok (since, rows)) :
    t.cycle server limits log =
      ⟨(Tail.store (t.ask server limits log).files
          (log.destinationFor t.connection.target.name) since rows).1.update t.state,
        (t.ask server limits log).connection,
        (Tail.store (t.ask server limits log).files
          (log.destinationFor t.connection.target.name) since rows).2,
        (t.ask server limits log).now⟩ := by
  rw [ask] at h
  rw [cycle, Tail.cycle, h]
  rfl

theorem Delivers.target_eq {t : Tailing σ} {delivered : List LogEvent}
    (h : Delivers server limits log target t delivered) : t.connection.target = target := by
  induction h with
  | start htarget _ => exact htarget
  | between _ _ htarget _ _ _ => exact htarget
  | @unanswered t _ _ _ hanswer ih =>
    rw [cycle_of_error hanswer]
    exact (Tail.asksFromFile_ask server limits log _ _ _ _).target.trans ih
  | @answered t _ _ _ _ _ hanswer _ ih =>
    rw [cycle_of_ok hanswer]
    exact (Tail.asksFromFile_ask server limits log _ _ _ _).target.trans ih

/-- Until it appends, a cycle does no more than to make sure of the file. -/
theorem isKept_ask (t : Tailing σ) (htarget : t.connection.target = target) :
    LogFile.IsKept (log.destinationFor target.name) t.files (t.ask server limits log).files := by
  rcases (Tail.asksFromFile_ask server limits log t.state t.files t.now t.connection).files with
    hfiles | hfiles
  · rw [ask, hfiles]
    exact LogFile.IsKept.refl _ _
  · rw [ask, hfiles, htarget]
    exact LogFile.isKept_ensure _ _

/-- Where there is a file, rows come for the moment that it gives to resume from. -/
theorem since_of_ask {t : Tailing σ} (htarget : t.connection.target = target)
    {content : List UInt8} (hread : t.files.read (log.destinationFor target.name) = .ok content)
    {since : Timestamp} {rows : List Row}
    (h : (t.ask server limits log).answer = .ok (since, rows)) :
    since = LogFile.cursor content := by
  obtain ⟨content', hread', hsince⟩ :=
    (Tail.asksFromFile_ask server limits log t.state t.files t.now t.connection).since since rows h
  have hkept : (t.ask server limits log).files.read (log.destinationFor target.name) =
      .ok content := (isKept_ask t htarget).read content hread
  rw [htarget] at hread'
  obtain rfl := Except.ok.inj (hkept.symm.trans hread')
  exact hsince

/-- The invariant of a run. -/
theorem Delivers.replicated {t : Tailing σ} {delivered : List LogEvent}
    (h : Delivers server limits log target t delivered) :
    LogFile.Replicated (log.destinationFor target.name) t.files delivered := by
  induction h with
  | start _ hmissing => exact LogFile.replicated_nil hmissing
  | between _ _ _ hfiles _ ih => exact ih.keep hfiles
  | @unanswered t _ _ hrun hanswer ih =>
    rw [cycle_of_error hanswer]
    exact ih.keep (isKept_ask _ hrun.target_eq)
  | @answered t _ _ since rows hrun hanswer hrows ih =>
    have htarget := hrun.target_eq
    obtain ⟨content, hread, hsince⟩ :=
      (Tail.asksFromFile_ask server limits log t.state t.files t.now t.connection).since
        since rows hanswer
    have hstore := Tail.store_of_read hread since rows
    rw [cycle_of_ok hanswer]
    rw [htarget] at hread hstore ⊢
    exact (ih.keep (isKept_ask _ htarget)).deliver hread hrows (hsince ▸ hstore.2)

/-- After any run, the file decodes line by line to the records of the events delivered so far,
once each and in the order of time, and the moment to resume from is that of the newest of them.
There may be no file as long as nothing was delivered. -/
theorem Delivers.exactly_once {t : Tailing σ} {delivered : List LogEvent}
    (h : Delivers server limits log target t delivered) :
    (delivered = [] ∧ LogFile.IsMissing (log.destinationFor target.name) t.files) ∨
    ∃ content, t.files.read (log.destinationFor target.name) = .ok content ∧
      (∃ events : List LogEvent, LogFile.decode? content = some (events.map LogEvent.record) ∧
        events.Perm delivered ∧ events.Pairwise fun a b ↦ a.le b = true) ∧
      ∃ since, LogFile.readCursor t.files (log.destinationFor target.name) = .ok since ∧
        LogEvent.ResumesAfter since delivered := by
  obtain ⟨hregular, events, hperm, hsorted, ⟨hmissing, hnil⟩ | hread⟩ := h.replicated
  · exact .inl ⟨hnil, hmissing⟩
  · have hcursor := LogEvent.cursor_of_events
      (fun e he ↦ hregular e (hperm.mem_iff.1 he)) hsorted
    refine .inr ⟨_, hread, ⟨events, LogFile.decode?_encode _, hperm, hsorted⟩,
      LogFile.cursor (LogFile.encode (events.map LogEvent.record)), ?_, ?_⟩
    · rw [LogFile.readCursor, hread, Except.map]
    · rcases hcursor with ⟨hnil, hsince⟩ | ⟨newest, hnewest, hle, hsince⟩
      · rw [hnil] at hperm
        exact .inl ⟨List.nil_perm.1 hperm, hsince⟩
      · exact .inr ⟨newest, hperm.mem_iff.1 hnewest,
          fun e he ↦ hle e (hperm.mem_iff.2 he), hsince⟩

/-! ### Two cycles

The first cycle gets two events, the later one first. The second one gets both again, one of them
in another spelling, and a third. -/

/-- An event of the rehearsed database. -/
def eventAt (seconds : Int) (nanos : Nat) : LogEvent := ⟨⟨seconds, nanos⟩, "m", "e", "text\n"⟩

/-- A row with an event of the rehearsed database. -/
def rowAt (timestamp : String) : Row :=
  ⟨[("timestamp", some timestamp), ("module_id", some "m"), ("ecid", some "e"),
    ("message", some "text\n")]⟩

def rehearsed : Clocked Rehearsal := Rehearsal.server.steady

def rehearsedTarget : Target := ⟨"t", { url := "" }, []⟩

def rehearsedLog : LogSettings := { destination := "t.log", query := "q" }

/-- A database that answers every query with the same rows. -/
def answering (rows : List Row) : Rehearsal := { responses := [⟨"q", .atOnce (.ok rows)⟩] }

def firstRows : List Row := [rowAt "2024-01-01T00:00:01.5Z", rowAt "2024-01-01T00:00:01Z"]

def secondRows : List Row :=
  [rowAt "2024-01-01T00:00:02Z", rowAt "2024-01-01 02:00:01.500 +0200",
    rowAt "2024-01-01T00:00:01Z"]

def beforeFirst : Tailing Rehearsal :=
  ⟨{}, .start rehearsed 0 rehearsedTarget (answering firstRows), .empty, 0⟩

/-- The file with the two events of the first cycle. -/
def filesAfterFirst : Files :=
  Files.empty.put ["t.log"]
    (.file (LogFile.encode [(eventAt 1704067201 0).record, (eventAt 1704067201 500000000).record]))

def beforeSecond : Tailing Rehearsal :=
  ⟨{}, .start rehearsed 0 rehearsedTarget (answering secondRows), filesAfterFirst, 0⟩

theorem ask_beforeFirst : (beforeFirst.ask rehearsed {} rehearsedLog).answer =
    .ok (LogRecord.sentinel, firstRows) := by decide +kernel

theorem destinationFor_rehearsed : rehearsedLog.destinationFor rehearsedTarget.name = "t.log" := by
  decide +kernel

theorem read_filesAfterFirst : filesAfterFirst.read "t.log" =
    .ok (LogFile.encode
      [(eventAt 1704067201 0).record, (eventAt 1704067201 500000000).record]) :=
  Files.read_eq_ok.2 ⟨rfl, rfl⟩

/-- The second cycle resumes after the later of the two events. -/
theorem ask_beforeSecond : (beforeSecond.ask rehearsed {} rehearsedLog).answer =
    .ok (⟨1704067201, 500000000⟩, secondRows) := by
  have hrows : (beforeSecond.ask rehearsed {} rehearsedLog).answer.map (·.2) = .ok secondRows := by
    decide +kernel
  have hcursor : LogFile.cursor (LogFile.encode
      [(eventAt 1704067201 0).record, (eventAt 1704067201 500000000).record]) =
      ⟨1704067201, 500000000⟩ := by
    have hmoment : Timestamp.read? (eventAt 1704067201 500000000).moment.text =
        some ⟨1704067201, 500000000⟩ :=
      Timestamp.read?_text ⟨by decide, by decide, by decide, by decide⟩
    have hlast := LogFile.cursor_encode_concat [(eventAt 1704067201 0).record]
      (eventAt 1704067201 500000000).record
    exact hlast.trans (by rw [LogEvent.record, hmoment, Option.getD_some])
  cases hanswer : (beforeSecond.ask rehearsed {} rehearsedLog).answer with
  | error outcome =>
    rw [hanswer] at hrows
    cases hrows
  | ok found =>
    obtain ⟨since, rows⟩ := found
    rw [hanswer] at hrows
    obtain rfl : rows = secondRows := Except.ok.inj hrows
    have htarget : beforeSecond.connection.target = rehearsedTarget := rfl
    have hsince := since_of_ask htarget
      (by rw [destinationFor_rehearsed]; exact read_filesAfterFirst) hanswer
    rw [hsince, hcursor]

theorem newer_firstRows : LogRecord.newer firstRows LogRecord.sentinel =
    [(eventAt 1704067201 0).record, (eventAt 1704067201 500000000).record] := by
  have hfilter : ((firstRows.filterMap LogRecord.ofRow?).filter fun e ↦
      LogRecord.sentinel.millis < e.1.millis) =
      [((eventAt 1704067201 500000000).moment, (eventAt 1704067201 500000000).record),
        ((eventAt 1704067201 0).moment, (eventAt 1704067201 0).record)] := by
    decide +kernel
  have horder : (eventAt 1704067201 500000000).moment.le (eventAt 1704067201 0).moment = false := by
    decide
  rw [LogRecord.newer, hfilter]
  simp [List.mergeSort, List.MergeSort.Internal.splitInTwo, horder]

theorem cycle_beforeFirst : beforeFirst.cycle rehearsed {} rehearsedLog =
    ⟨{}, (beforeFirst.ask rehearsed {} rehearsedLog).connection, filesAfterFirst,
      (beforeFirst.ask rehearsed {} rehearsedLog).now⟩ := by
  have hstore : Tail.store (beforeFirst.ask rehearsed {} rehearsedLog).files "t.log"
      LogRecord.sentinel firstRows = (.appended 2, filesAfterFirst) := by
    rw [Tail.store, newer_firstRows]
    decide +kernel
  rw [cycle_of_ok ask_beforeFirst]
  change (⟨(Tail.store _ (rehearsedLog.destinationFor rehearsedTarget.name) _ _).1.update _, _,
    (Tail.store _ (rehearsedLog.destinationFor rehearsedTarget.name) _ _).2, _⟩ :
      Tailing Rehearsal) = _
  rw [destinationFor_rehearsed, hstore]
  rfl

theorem isDelivery_firstRows : LogEvent.IsDelivery []
    [eventAt 1704067201 0, eventAt 1704067201 500000000] firstRows := by
  refine ⟨⟨[], [eventAt 1704067201 500000000, eventAt 1704067201 0], nofun, List.Perm.swap _ _ _,
    .cons ?_ (.cons ?_ .nil)⟩, by decide, nofun⟩
  · decide
  · decide

theorem isDelivery_secondRows : LogEvent.IsDelivery
    [eventAt 1704067201 0, eventAt 1704067201 500000000] [eventAt 1704067202 0] secondRows := by
  have hperm : ([eventAt 1704067202 0] ++
      [eventAt 1704067201 500000000, eventAt 1704067201 0]).Perm
        ([eventAt 1704067201 500000000, eventAt 1704067201 0] ++ [eventAt 1704067202 0]) :=
    List.perm_append_comm
  refine ⟨⟨_, _, by decide, hperm, .cons ?_ (.cons ?_ (.cons ?_ .nil))⟩, by decide, by decide⟩
  · decide
  · decide
  · decide

theorem delivers_afterSecond : Delivers rehearsed {} rehearsedLog rehearsedTarget
    (beforeSecond.cycle rehearsed {} rehearsedLog)
    [eventAt 1704067201 0, eventAt 1704067201 500000000, eventAt 1704067202 0] := by
  have hstart : Delivers rehearsed {} rehearsedLog rehearsedTarget beforeFirst [] := by
    refine .start rfl fun content h ↦ ?_
    have hnone : beforeFirst.files.at? (Files.namedPlace "t.log") = none := by decide
    rw [destinationFor_rehearsed, hnone] at h
    exact absurd h nofun
  have hfirst := Delivers.answered hstart ask_beforeFirst isDelivery_firstRows
  rw [cycle_beforeFirst] at hfirst
  have hbetween : Delivers rehearsed {} rehearsedLog rehearsedTarget beforeSecond
      [eventAt 1704067201 0, eventAt 1704067201 500000000] :=
    hfirst.between rfl rfl (LogFile.IsKept.refl _ _) (by decide +kernel)
  exact .answered hbetween ask_beforeSecond isDelivery_secondRows

/-- The three events are in the file once each, and the next cycle resumes after the last. -/
theorem exactly_once_afterSecond :
    ∃ content,
      (beforeSecond.cycle rehearsed {} rehearsedLog).files.read "t.log" = .ok content ∧
      (∃ events : List LogEvent, LogFile.decode? content = some (events.map LogEvent.record) ∧
        events.Perm [eventAt 1704067201 0, eventAt 1704067201 500000000, eventAt 1704067202 0] ∧
        events.Pairwise fun a b ↦ a.le b = true) ∧
      ∃ since, LogFile.readCursor (beforeSecond.cycle rehearsed {} rehearsedLog).files
          "t.log" = .ok since ∧
        LogEvent.ResumesAfter since
          [eventAt 1704067201 0, eventAt 1704067201 500000000, eventAt 1704067202 0] := by
  have h := delivers_afterSecond.exactly_once
  rw [destinationFor_rehearsed] at h
  rcases h with ⟨hnil, -⟩ | h
  · exact absurd hnil (List.cons_ne_nil _ _)
  · exact h

end Tailing

end Telemetry
