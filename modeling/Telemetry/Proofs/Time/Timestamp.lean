import Mathlib.Algebra.Group.Nat.Defs
import Mathlib.Data.List.TakeWhile
import Telemetry.Proofs.Number.Decimal
import Telemetry.Proofs.Time.Calendar
import Telemetry.Time.Timestamp

/-!
# Reading back a timestamp

A moment is shown in UTC with milliseconds, and read back as itself with what is finer cut off
(`read?_text`). This holds wherever the year has four digits, leap seconds included.
-/

namespace Telemetry.Timestamp

/-! ## Numbers of a fixed width -/

theorem isDigit_of_mem_padded {width n : Nat} {c : Char} (h : c ∈ padded width n) :
    Decimal.isDigit c = true := by
  rw [padded, List.mem_append, List.mem_replicate] at h
  rcases h with ⟨-, rfl⟩ | h
  · rfl
  · exact Decimal.isDigit_of_mem_decimalDigits h

theorem padded_ne_nil (width n : Nat) : padded width n ≠ [] :=
  List.append_ne_nil_of_right_ne_nil _ (Text.decimalDigits_ne_nil n)

theorem exists_padded_eq_cons (width n : Nat) :
    ∃ c cs, padded width n = c :: cs ∧ Decimal.isDigit c = true := by
  obtain ⟨c, cs, hcons⟩ := List.exists_cons_of_ne_nil (padded_ne_nil width n)
  exact ⟨c, cs, hcons, isDigit_of_mem_padded (by rw [hcons]; exact List.mem_cons_self)⟩

theorem value_padded (width n : Nat) : Decimal.value (padded width n) = n := by
  rw [padded, Decimal.value_replicate_append, Decimal.value_decimalDigits]

theorem length_padded {width n : Nat} (h : n < 10 ^ (width + 1)) :
    (padded (width + 1) n).length = width + 1 := by
  rw [padded, List.length_append, List.length_replicate]
  exact Nat.sub_add_cancel (Decimal.length_decimalDigits_le h)

theorem takeWhile_digits {digits : List Char} (h : ∀ c ∈ digits, Decimal.isDigit c = true) :
    digits.takeWhile Decimal.isDigit = digits := List.takeWhile_eq_self_iff.2 h

/-- A number that has all the digits that are read at most. -/
theorem number_of_length {least most : Nat} {digits : List Char}
    (hdigits : ∀ d ∈ digits, Decimal.isDigit d = true) (hlength : digits.length = most)
    (hleast : least ≤ most) (rest : List Char) :
    number least most (digits ++ rest) = some (Decimal.value digits, rest) := by
  rw [number, List.take_left' hlength, takeWhile_digits hdigits, List.drop_left,
    if_neg (Nat.not_lt.2 (hlength ▸ hleast))]

theorem number_padded {width n : Nat} (h : n < 10 ^ (width + 1)) (rest : List Char) :
    number (width + 1) (width + 1) (padded (width + 1) n ++ rest) = some (n, rest) := by
  rw [number_of_length (fun _ ↦ isDigit_of_mem_padded) (length_padded h) (Nat.le_refl _),
    value_padded]

/-- A fraction of at most nine digits. -/
theorem fraction_digits {digits rest : List Char} (hne : digits ≠ [])
    (hlength : digits.length ≤ 9) (hdigits : ∀ c ∈ digits, Decimal.isDigit c = true)
    (hrest : rest.takeWhile Decimal.isDigit = []) :
    fraction ('.' :: (digits ++ rest)) =
      some (Decimal.value digits * 10 ^ (9 - digits.length), rest) := by
  have htake : (digits ++ rest).takeWhile Decimal.isDigit = digits := by
    rw [List.takeWhile_append_of_pos hdigits, hrest, List.append_nil]
  have hempty : ¬ digits.isEmpty = true := by rwa [List.isEmpty_iff]
  rw [fraction]
  simp only
  rw [htake, if_neg hempty, List.take_of_length_le hlength, List.drop_left]
  rfl

/-! ## The shape of a text -/

theorem literal_cons_self (c : Char) (rest : List Char) :
    literal c (c :: rest) = some ((), rest) := if_pos rfl

/-- A step that reads something hands it on. This is said of the binds of the readers themselves:
the congruence of `Option.bind` would go through what comes behind a step once for each step. -/
theorem some_bind {α β : Type} (a : α) (f : α → Option β) : (some a >>= f) = f a := rfl

theorem none_bind {α β : Type} (f : α → Option β) : (none >>= f) = none := rfl

theorem bind_eq_some_iff {α β : Type} {x : Option α} {f : α → Option β} {b : β} :
    (x >>= f) = some b ↔ ∃ a, x = some a ∧ f a = some b := Option.bind_eq_some_iff

/-- A text is read field by field. -/
theorem readWith?_of_fields {readYear : Scan Int} {readField : Scan Nat} {between : Scan Unit}
    {readOffset : Scan Int} {year : Int} {month day hour minute second nanos : Nat} {offset : Int}
    {Y M D B h m s f z : List Char}
    (hyear : readYear (Y ++ '-' :: (M ++ '-' :: (D ++ B))) =
      some (year, '-' :: (M ++ '-' :: (D ++ B))))
    (hmonth : readField (M ++ '-' :: (D ++ B)) = some (month, '-' :: (D ++ B)))
    (hday : readField (D ++ B) = some (day, B))
    (hbetween : between B = some ((), h ++ ':' :: (m ++ ':' :: (s ++ f))))
    (hhour : readField (h ++ ':' :: (m ++ ':' :: (s ++ f))) =
      some (hour, ':' :: (m ++ ':' :: (s ++ f))))
    (hminute : readField (m ++ ':' :: (s ++ f)) = some (minute, ':' :: (s ++ f)))
    (hsecond : readField (s ++ f) = some (second, f)) (hfraction : fraction f = some (nanos, z))
    (hoffset : readOffset z = some (offset, [])) :
    readWith? readYear readField between readOffset (Y ++ '-' :: (M ++ '-' :: (D ++ B))) =
      ofCivil? ⟨year, month, day⟩ hour minute second nanos offset := by
  simp only [readWith?, hyear, hmonth, hday, hbetween, hhour, hminute, hsecond, hfraction, hoffset,
    literal_cons_self, some_bind]
  exact if_pos rfl

/-! ## Reading back -/

/-- The date in UTC. -/
def utcDate (t : Timestamp) : Date := Date.ofDays (t.seconds / 86400)

/-- A moment whose year has four digits. Its nanoseconds go past a second only inside a leap
second, which stands at the end of a minute. -/
structure IsShowable (t : Timestamp) : Prop where
  year_nonneg : 0 ≤ t.utcDate.year
  year_le : t.utcDate.year ≤ 9999
  nanos_lt : t.nanos < 2000000000
  seconds_of_leap : 1000000000 ≤ t.nanos → t.seconds % 60 = 59

theorem IsShowable.toNat_year_lt {t : Timestamp} (h : t.IsShowable) :
    t.utcDate.year.toNat < 10 ^ 4 := by
  have hle := h.year_le
  omega

/-- The moment without what is finer than milliseconds. -/
def truncated (t : Timestamp) : Timestamp := ⟨t.seconds, t.nanos / 1000000 * 1000000⟩

theorem millis_truncated (t : Timestamp) : t.truncated.millis = t.millis := by
  rw [millis, millis, truncated]
  dsimp only
  rw [Nat.mul_div_cancel _ (by decide)]

/-- What is cut off is not shown. -/
theorem text_truncated (t : Timestamp) : t.truncated.text = t.text := by
  have hleap : 1000000000 ≤ t.nanos / 1000000 * 1000000 ↔ 1000000000 ≤ t.nanos := by omega
  rw [text, text, textChars, textChars, truncated]
  simp only [ge_iff_le, hleap]
  by_cases h : 1000000000 ≤ t.nanos
  · have hmillis : (t.nanos / 1000000 * 1000000 - 1000000000) / 1000000 =
        (t.nanos - 1000000000) / 1000000 := by omega
    simp only [h, if_true, hmillis]
  · have hmillis : t.nanos / 1000000 * 1000000 / 1000000 = t.nanos / 1000000 := by omega
    simp only [h, if_false, hmillis]

/-- The seconds of the day in UTC. -/
def secondOfDay (t : Timestamp) : Nat := (t.seconds % 86400).toNat

/-- The second of the minute as it is shown: sixty inside a leap second. -/
def secondShown (t : Timestamp) : Nat :=
  t.secondOfDay % 60 + if 1000000000 ≤ t.nanos then 1 else 0

/-- The milliseconds as they are shown. -/
def millisShown (t : Timestamp) : Nat :=
  (if 1000000000 ≤ t.nanos then t.nanos - 1000000000 else t.nanos) / 1000000

theorem month_utcDate_lt (t : Timestamp) : t.utcDate.month < 10 ^ 2 :=
  Nat.lt_of_le_of_lt (Date.month_le_of_isValid (Date.isValid_ofDays _)).2 (by decide)

theorem day_utcDate_lt (t : Timestamp) : t.utcDate.day < 10 ^ 2 :=
  Nat.lt_of_le_of_lt (Date.day_le_of_isValid (Date.isValid_ofDays _)).2 (by decide)

theorem cast_secondOfDay (t : Timestamp) : (t.secondOfDay : Int) = t.seconds % 86400 := by
  rw [secondOfDay]
  omega

theorem hourShown_lt (t : Timestamp) : t.secondOfDay / 3600 < 10 ^ 2 := by
  have hday := t.cast_secondOfDay
  omega

theorem minuteShown_lt (t : Timestamp) : t.secondOfDay / 60 % 60 < 10 ^ 2 := by omega

theorem secondShown_lt (t : Timestamp) : t.secondShown < 10 ^ 2 := by
  rw [secondShown]
  split <;> omega

theorem millisShown_lt {t : Timestamp} (h : t.nanos < 2000000000) : t.millisShown < 10 ^ 3 := by
  rw [millisShown]
  split <;> omega

/-- What stands behind the date in a text. -/
def timeChars (t : Timestamp) : List Char :=
  padded 2 (t.secondOfDay / 3600) ++ ':' :: (padded 2 (t.secondOfDay / 60 % 60) ++
    ':' :: (padded 2 t.secondShown ++ '.' :: (padded 3 t.millisShown ++ ['Z'])))

theorem textChars_eq_yearText (t : Timestamp) :
    t.textChars = yearText t.utcDate.year ++ '-' :: (padded 2 t.utcDate.month ++
      '-' :: (padded 2 t.utcDate.day ++ 'T' :: t.timeChars)) := by
  simp only [textChars, timeChars, List.append_assoc, List.cons_append]
  rfl

theorem textChars_eq {t : Timestamp} (h : t.IsShowable) :
    t.textChars = padded 4 t.utcDate.year.toNat ++ '-' :: (padded 2 t.utcDate.month ++
      '-' :: (padded 2 t.utcDate.day ++ 'T' :: t.timeChars)) := by
  have hyear : yearText t.utcDate.year = padded 4 t.utcDate.year.toNat := by
    rw [yearText, if_neg (Int.not_lt.2 h.year_nonneg), if_neg (Int.not_lt.2 h.year_le)]
  rw [textChars_eq_yearText, hyear]

/-- The fields of a text are those of the moment. -/
theorem ofCivil?_shown {t : Timestamp} (h : t.IsShowable) :
    ofCivil? t.utcDate (t.secondOfDay / 3600) (t.secondOfDay / 60 % 60) t.secondShown
      (t.millisShown * 1000000) 0 = some t.truncated := by
  have hday := t.cast_secondOfDay
  have hvalid : t.utcDate.isValid = true := Date.isValid_ofDays _
  have hdays : t.utcDate.toDays = t.seconds / 86400 := Date.toDays_ofDays _
  have hyear : minYear ≤ t.utcDate.year ∧ t.utcDate.year ≤ maxYear :=
    ⟨Int.le_trans (by decide) h.year_nonneg, Int.le_trans h.year_le (by decide)⟩
  have hcond : (t.utcDate.isValid && minYear ≤ t.utcDate.year && t.utcDate.year ≤ maxYear &&
      t.secondOfDay / 3600 < 24 && t.secondOfDay / 60 % 60 < 60 && t.secondShown ≤ 60 &&
      (0 : Int).natAbs < 86400) = true := by
    simp only [Bool.and_eq_true, decide_eq_true_eq]
    refine ⟨⟨⟨⟨⟨⟨hvalid, hyear.1⟩, hyear.2⟩, by omega⟩, by omega⟩, ?_⟩, by decide⟩
    rw [secondShown]
    split <;> omega
  -- The time of the day and the nanoseconds are put together again, inside a leap second or not.
  have hmoment : t.utcDate.toDays * 86400 + (((t.secondOfDay / 3600 : Nat) : Int) * 3600 +
      ((t.secondOfDay / 60 % 60 : Nat) : Int) * 60 +
        ((if t.secondShown = 60 then 59 else t.secondShown : Nat) : Int)) - 0 = t.seconds ∧
      (if t.secondShown = 60 then 1000000000 + t.millisShown * 1000000
        else t.millisShown * 1000000) = t.nanos / 1000000 * 1000000 := by
    have hleap := h.seconds_of_leap
    rw [hdays, secondShown, millisShown]
    by_cases hnanos : 1000000000 ≤ t.nanos
    · have hlast : t.secondOfDay % 60 = 59 := by have := hleap hnanos; omega
      rw [if_pos hnanos, if_pos hnanos, hlast, if_pos rfl, if_pos rfl]
      constructor
      · omega
      · omega
    · have hlast : t.secondOfDay % 60 + 0 ≠ 60 := by omega
      rw [if_neg hnanos, if_neg hnanos, if_neg hlast, if_neg hlast]
      constructor
      · omega
      · rfl
  rw [ofCivil?, if_pos hcond]
  dsimp only
  rw [hmoment.1, hmoment.2]
  exact if_pos (by rw [Bool.and_eq_true, decide_eq_true_eq, decide_eq_true_eq]; exact hyear)

/-- The internet form is read back. -/
theorem readChars?_textChars {t : Timestamp} (h : t.IsShowable) :
    readChars? t.textChars = some t.truncated := by
  have hcast : ((t.utcDate.year.toNat : Nat) : Int) = t.utcDate.year :=
    Int.toNat_of_nonneg h.year_nonneg
  have hfraction : fraction ('.' :: (padded 3 t.millisShown ++ ['Z'])) =
      some (t.millisShown * 1000000, ['Z']) := by
    have hlength : (padded 3 t.millisShown).length = 3 :=
      length_padded (millisShown_lt h.nanos_lt)
    have hscaled : fraction ('.' :: (padded 3 t.millisShown ++ ['Z'])) =
        some (Decimal.value (padded 3 t.millisShown) *
          10 ^ (9 - (padded 3 t.millisShown).length), ['Z']) :=
      fraction_digits (padded_ne_nil _ _) (by omega)
        (fun c ↦ isDigit_of_mem_padded) rfl
    rw [value_padded, hlength] at hscaled
    exact hscaled
  have hyear (rest : List Char) : (number 4 4 (padded 4 t.utcDate.year.toNat ++ rest)).map
      (fun p ↦ ((p.1 : Int), p.2)) = some (t.utcDate.year, rest) := by
    rw [number_padded h.toNat_year_lt, Option.map_some, hcast]
  rw [readChars?, textChars_eq h, readWith?_of_fields (hyear _)
    (number_padded t.month_utcDate_lt _) (number_padded t.day_utcDate_lt _) rfl
    (number_padded t.hourShown_lt _) (number_padded t.minuteShown_lt _)
    (number_padded t.secondShown_lt _) hfraction rfl, ofCivil?_shown h]
  rfl

theorem isBlank_of_isDigit {c : Char} (h : Decimal.isDigit c = true) : Text.isBlank c = false := by
  have hvalue : 48 ≤ c.toNat ∧ c.toNat ≤ 57 := by
    rw [Decimal.isDigit, Bool.and_eq_true, decide_eq_true_eq, decide_eq_true_eq] at h
    exact h
  rw [Text.isBlank]
  simp only [Bool.or_eq_false_iff, Bool.and_eq_false_iff, decide_eq_false_iff_not,
    beq_eq_false_iff_ne]
  omega

theorem trimChars_textChars {t : Timestamp} (h : t.IsShowable) :
    Text.trimChars t.textChars = t.textChars := by
  have hlast : t.textChars.getLast? = some 'Z' := List.getLast?_concat
  obtain ⟨c, cs, hcons, hdigit⟩ := exists_padded_eq_cons 4 t.utcDate.year.toNat
  rw [textChars_eq h, hcons, List.cons_append] at hlast ⊢
  exact Text.trimChars_of_ends (isBlank_of_isDigit hdigit) hlast (by decide)

/-- A moment is read back from its text, without what is finer than milliseconds. -/
theorem read?_text {t : Timestamp} (h : t.IsShowable) : read? t.text = some t.truncated := by
  rw [read?, text, String.toList_ofList, trimChars_textChars h, readChars?_textChars h]

/-! ## The order of moments -/

/-- The nanoseconds since the beginning of 1970. -/
def sinceEpoch (t : Timestamp) : Int := t.seconds * 1000000000 + t.nanos

/-- At least a millisecond lies between two moments. -/
def IsMillisecondBefore (s t : Timestamp) : Prop := s.sinceEpoch + 1000000 ≤ t.sinceEpoch

instance (s t : Timestamp) : Decidable (s.IsMillisecondBefore t) :=
  inferInstanceAs (Decidable (s.sinceEpoch + 1000000 ≤ t.sinceEpoch))

theorem millis_eq (t : Timestamp) : t.millis = t.sinceEpoch / 1000000 := by
  rw [millis, sinceEpoch]
  omega

theorem IsMillisecondBefore.millis_lt {s t : Timestamp} (h : s.IsMillisecondBefore t) :
    s.millis < t.millis := by
  rw [IsMillisecondBefore] at h
  rw [millis_eq, millis_eq]
  omega

theorem le_iff (s t : Timestamp) :
    s.le t = true ↔ s.seconds < t.seconds ∨ s.seconds = t.seconds ∧ s.nanos ≤ t.nanos := by
  rw [le, Bool.or_eq_true, Bool.and_eq_true, decide_eq_true_eq, decide_eq_true_eq,
    decide_eq_true_eq]

theorem le_refl (t : Timestamp) : t.le t = true := (le_iff t t).2 (.inr ⟨rfl, Nat.le_refl _⟩)

theorem le_trans {s t u : Timestamp} (hst : s.le t = true) (htu : t.le u = true) :
    s.le u = true := by
  rw [le_iff] at hst htu ⊢
  omega

theorem le_antisymm {s t : Timestamp} (hst : s.le t = true) (hts : t.le s = true) : s = t := by
  rw [le_iff] at hst hts
  rw [Timestamp.mk.injEq]
  omega

theorem le_total (s t : Timestamp) : (s.le t || t.le s) = true := by
  rw [Bool.or_eq_true, le_iff, le_iff]
  omega

/-- Outside of leap seconds, moments are ordered by the nanoseconds since the epoch. -/
theorem le_iff_sinceEpoch {s t : Timestamp} (hs : s.nanos < 1000000000)
    (ht : t.nanos < 1000000000) : s.le t = true ↔ s.sinceEpoch ≤ t.sinceEpoch := by
  rw [le_iff, sinceEpoch, sinceEpoch]
  omega

end Telemetry.Timestamp
