import Telemetry.Proofs.Time.Reading

/-!
# The order of timestamps

Texts of moments are in the order of time: they compare as the moments do, once what is finer than
milliseconds is cut off (`text_isFaithful`).

A text is a row of numbers of fixed widths, the greatest unit first, so it compares as its numbers
do, one after the other (`padded_append_lt_iff`). For the time of the day these numbers make up the
second of the day, and inside a leap second the sixty is greater than every second before it. For
the date the numbers have to be brought in the order of days. A date is a day of a year that begins
in March, and no day of one year comes after the first of the next (`dayOfYear_lt`), so day numbers
go up with the dates (`toDays_lt_toDays`). As every day number is that of a date, they are the same
order.
-/

namespace Telemetry

namespace Date

/-! ## The order of dates -/

/-- The date is an earlier one. -/
def IsBefore (d e : Date) : Prop :=
  d.year < e.year ∨ d.year = e.year ∧ (d.month < e.month ∨ d.month = e.month ∧ d.day < e.day)

theorem isBefore_trichotomy (d e : Date) : d.IsBefore e ∨ d = e ∨ e.IsBefore d := by
  rw [IsBefore, IsBefore, Date.mk.injEq]
  omega

/-- The year in which a date lies when years begin in March. -/
def yearFromMarch (d : Date) : Int := if d.month ≤ 2 then d.year - 1 else d.year

/-- The first day of a year that begins in March, counted from that of the year zero. -/
def daysBefore (year : Int) : Int := year * 365 + year / 4 - year / 100 + year / 400

theorem daysBefore_mono {a b : Int} (h : a ≤ b) : daysBefore a ≤ daysBefore b := by
  rw [daysBefore, daysBefore]
  omega

theorem toDays_eq (d : Date) :
    d.toDays = daysBefore d.yearFromMarch + dayOfYear d.month d.day - 719468 := by
  have hyear : (if d.month ≤ 2 then d.year - 1 else d.year) = d.yearFromMarch := rfl
  rw [toDays, hyear, dayOfEra, daysBefore]
  omega

/-- A day lies before the first of the next month. -/
theorem dayOfYear_lt_of_month {d : Date} (h : d.isValid = true) :
    dayOfYear d.month d.day < (153 * (monthFromMarch d.month + 1) + 2) / 5 := by
  have hall : ∀ leap : Bool, ∀ month < 13, ∀ day < 32, 1 ≤ month → 1 ≤ day →
      (day ≤ if month = 2 then (if leap then 29 else 28)
        else if month = 4 || month = 6 || month = 9 || month = 11 then 30
        else if 1 ≤ month && month ≤ 12 then 31
        else 0) →
      dayOfYear month day < (153 * (monthFromMarch month + 1) + 2) / 5 := by decide +kernel
  obtain ⟨hmonth, hmonth'⟩ := month_le_of_isValid h
  obtain ⟨hday, hday'⟩ := day_le_of_isValid h
  rw [isValid, Bool.and_eq_true, decide_eq_true_eq, decide_eq_true_eq, daysInMonth] at h
  exact hall (isLeapYear d.year) d.month (by omega) d.day (by omega) hmonth hday h.2

/-- A day lies before the first of the next year. -/
theorem dayOfYear_lt {d : Date} (h : d.isValid = true) :
    daysBefore d.yearFromMarch + dayOfYear d.month d.day < daysBefore (d.yearFromMarch + 1) := by
  have hmonth := month_le_of_isValid h
  have hlt := dayOfYear_lt_of_month h
  by_cases htwo : d.month = 2
  · rw [isValid, Bool.and_eq_true, decide_eq_true_eq, decide_eq_true_eq, daysInMonth, if_pos htwo,
      isLeapYear] at h
    have hday : dayOfYear d.month d.day = 336 + d.day := by
      rw [htwo, dayOfYear, monthFromMarch]
      omega
    rw [hday, yearFromMarch, if_pos (by omega), daysBefore, daysBefore]
    simp only [Bool.and_eq_true, Bool.or_eq_true, decide_eq_true_eq] at h
    split at h
    · omega
    · omega
  · have hmarch : monthFromMarch d.month ≤ 10 := by rw [monthFromMarch]; omega
    have hday : dayOfYear d.month d.day < 337 := by omega
    rw [daysBefore, daysBefore]
    omega

/-- In the same year, later dates have later days. -/
theorem dayOfYear_lt_dayOfYear {d e : Date} (hd : d.isValid = true) (he : e.isValid = true)
    (h : monthFromMarch d.month < monthFromMarch e.month ∨ d.month = e.month ∧ d.day < e.day) :
    dayOfYear d.month d.day < dayOfYear e.month e.day := by
  have hday := (day_le_of_isValid hd).1
  have hday' := (day_le_of_isValid he).1
  rcases h with hmonth | ⟨hmonth, hlt⟩
  · have hend := dayOfYear_lt_of_month hd
    have hbegin : (153 * (monthFromMarch d.month + 1) + 2) / 5 ≤ dayOfYear e.month e.day := by
      rw [dayOfYear]
      omega
    omega
  · rw [dayOfYear, dayOfYear, hmonth]
    omega

/-- An earlier date lies in an earlier year, or in an earlier month of the same one, or it is an
earlier day of the same month, also when years begin in March. -/
theorem yearFromMarch_of_isBefore {d e : Date} (hd : d.isValid = true) (he : e.isValid = true)
    (h : d.IsBefore e) :
    d.yearFromMarch < e.yearFromMarch ∨ d.yearFromMarch = e.yearFromMarch ∧
      (monthFromMarch d.month < monthFromMarch e.month ∨ d.month = e.month ∧ d.day < e.day) := by
  have hmonth := month_le_of_isValid hd
  have hmonth' := month_le_of_isValid he
  rw [IsBefore] at h
  rw [yearFromMarch, yearFromMarch, monthFromMarch, monthFromMarch]
  split
  · split
    · omega
    · omega
  · split
    · omega
    · omega

/-- Day numbers go up with the dates. -/
theorem toDays_lt_toDays {d e : Date} (hd : d.isValid = true) (he : e.isValid = true)
    (h : d.IsBefore e) : d.toDays < e.toDays := by
  rw [toDays_eq, toDays_eq]
  rcases yearFromMarch_of_isBefore hd he h with hyear | ⟨hyear, hmonth⟩
  · have hend := dayOfYear_lt hd
    have hbegin : daysBefore (d.yearFromMarch + 1) ≤ daysBefore e.yearFromMarch :=
      daysBefore_mono hyear
    omega
  · have hday := dayOfYear_lt_dayOfYear hd he hmonth
    rw [hyear]
    omega

theorem eq_of_toDays_eq {d e : Date} (hd : d.isValid = true) (he : e.isValid = true)
    (h : d.toDays = e.toDays) : d = e := by
  rcases isBefore_trichotomy d e with hlt | heq | hlt
  · exact absurd h (Int.ne_of_lt (toDays_lt_toDays hd he hlt))
  · exact heq
  · exact absurd h.symm (Int.ne_of_lt (toDays_lt_toDays he hd hlt))

/-- The date of the day number of a date is that date. -/
theorem ofDays_toDays {d : Date} (h : d.isValid = true) : ofDays d.toDays = d :=
  eq_of_toDays_eq (isValid_ofDays _) h (toDays_ofDays _)

theorem ofDays_inj {m n : Int} : ofDays m = ofDays n ↔ m = n :=
  ⟨fun h ↦ by rw [← toDays_ofDays m, h, toDays_ofDays], congrArg ofDays⟩

/-- Dates are in the order of their day numbers. -/
theorem isBefore_ofDays_iff {m n : Int} : (ofDays m).IsBefore (ofDays n) ↔ m < n := by
  constructor
  · intro h
    have hlt := toDays_lt_toDays (isValid_ofDays m) (isValid_ofDays n) h
    rwa [toDays_ofDays, toDays_ofDays] at hlt
  · intro h
    rcases isBefore_trichotomy (ofDays m) (ofDays n) with hlt | heq | hlt
    · exact hlt
    · exact absurd (ofDays_inj.1 heq) (Int.ne_of_lt h)
    · have hlt := toDays_lt_toDays (isValid_ofDays n) (isValid_ofDays m) hlt
      rw [toDays_ofDays, toDays_ofDays] at hlt
      omega

end Date

namespace Decimal

/-! ## The order of numbers -/

theorem value_cons (c : Char) (digits : List Char) :
    value (c :: digits) = (c.toNat - 48) * 10 ^ digits.length + value digits := by
  induction digits using List.reverseRecOn with
  | nil => rw [value, List.foldl_cons, Nat.zero_mul, Nat.zero_add, List.length_nil, Nat.pow_zero,
      Nat.mul_one]; rfl
  | append_singleton digits d ih =>
    rw [← List.cons_append, value_concat, ih, value_concat, List.length_append,
      List.length_singleton, Nat.pow_succ, Nat.add_mul, Nat.mul_assoc, Nat.add_assoc]

/-- Of numbers of the same length, the one with the lower first digit is the lower one. -/
theorem value_cons_lt_value_cons {c d : Char} {first second : List Char}
    (hlength : first.length = second.length) (hdigits : ∀ e ∈ c :: first, isDigit e = true)
    (h : c < d) : value (c :: first) < value (d :: second) := by
  have hc : 48 ≤ c.toNat := by
    have hdigit := hdigits c List.mem_cons_self
    rw [isDigit, Bool.and_eq_true, decide_eq_true_eq, decide_eq_true_eq] at hdigit
    exact hdigit.1
  have hcd : c.toNat < d.toNat := h
  have hrest : value first < 10 ^ second.length :=
    hlength ▸ value_lt fun e he ↦ hdigits e (List.mem_cons_of_mem c he)
  rw [value_cons, value_cons, hlength]
  calc (c.toNat - 48) * 10 ^ second.length + value first
      < (c.toNat - 48 + 1) * 10 ^ second.length := by rw [Nat.succ_mul]; omega
    _ ≤ (d.toNat - 48) * 10 ^ second.length := Nat.mul_le_mul_right _ (by omega)
    _ ≤ (d.toNat - 48) * 10 ^ second.length + value second := Nat.le_add_right _ _

/-- Numbers of the same length compare as their values, and what follows them decides where these
are the same. -/
theorem append_lt_append_iff {first second rest rest' : List Char}
    (hlength : first.length = second.length) (hfirst : ∀ c ∈ first, isDigit c = true)
    (hsecond : ∀ c ∈ second, isDigit c = true) :
    first ++ rest < second ++ rest' ↔
      value first < value second ∨ value first = value second ∧ rest < rest' := by
  induction first generalizing second with
  | nil =>
    obtain rfl := List.eq_nil_of_length_eq_zero hlength.symm
    simp
  | cons c first ih =>
    obtain ⟨d, second, rfl⟩ := List.exists_cons_of_length_eq_add_one hlength.symm
    have hlength' : first.length = second.length := Nat.succ.inj hlength
    rw [List.cons_append, List.cons_append, List.cons_lt_cons_iff]
    rcases Std.lt_trichotomy c d with hlt | rfl | hlt
    · exact iff_of_true (.inl hlt) (.inl (value_cons_lt_value_cons hlength' hfirst hlt))
    · rw [ih hlength' (fun e he ↦ hfirst e (List.mem_cons_of_mem c he))
        (fun e he ↦ hsecond e (List.mem_cons_of_mem c he)), value_cons, value_cons, hlength']
      simp
    · have hvalue := value_cons_lt_value_cons hlength'.symm hsecond hlt
      refine iff_of_false ?_ (by omega)
      rintro (hcd | ⟨rfl, -⟩)
      · exact Char.lt_asymm hlt hcd
      · exact Char.lt_irrefl _ hlt

end Decimal

namespace Timestamp

/-! ## The order of texts -/

/-- The moment is an earlier one. -/
def IsBefore (s t : Timestamp) : Prop :=
  s.seconds < t.seconds ∨ s.seconds = t.seconds ∧ s.nanos < t.nanos

instance (s t : Timestamp) : Decidable (s.IsBefore t) := inferInstanceAs (Decidable (_ ∨ _))

theorem padded_append_lt_iff {width a b : Nat} (ha : a < 10 ^ (width + 1))
    (hb : b < 10 ^ (width + 1)) {rest rest' : List Char} :
    padded (width + 1) a ++ rest < padded (width + 1) b ++ rest' ↔
      a < b ∨ a = b ∧ rest < rest' := by
  rw [Decimal.append_lt_append_iff ((length_padded ha).trans (length_padded hb).symm)
    (fun _ ↦ isDigit_of_mem_padded) (fun _ ↦ isDigit_of_mem_padded), value_padded, value_padded]

/-- Texts compare by their dates, and on the same date by what stands behind it. -/
theorem textChars_lt_iff {s t : Timestamp} (hs : s.IsShowable) (ht : t.IsShowable) :
    s.textChars < t.textChars ↔
      s.utcDate.IsBefore t.utcDate ∨ s.utcDate = t.utcDate ∧ s.timeChars < t.timeChars := by
  have hnonneg := hs.year_nonneg
  have hnonneg' := ht.year_nonneg
  have hyear : s.utcDate.year.toNat < t.utcDate.year.toNat ↔ s.utcDate.year < t.utcDate.year := by
    omega
  have hyear' : s.utcDate.year.toNat = t.utcDate.year.toNat ↔ s.utcDate.year = t.utcDate.year := by
    omega
  have hdate : s.utcDate = t.utcDate ↔ s.utcDate.year = t.utcDate.year ∧
      s.utcDate.month = t.utcDate.month ∧ s.utcDate.day = t.utcDate.day := by
    rw [Date.mk.injEq]
  rw [textChars_eq hs, textChars_eq ht,
    padded_append_lt_iff hs.toNat_year_lt ht.toNat_year_lt, List.cons_lt_cons_self,
    padded_append_lt_iff s.month_utcDate_lt t.month_utcDate_lt, List.cons_lt_cons_self,
    padded_append_lt_iff s.day_utcDate_lt t.day_utcDate_lt, List.cons_lt_cons_self,
    hdate, Date.IsBefore, hyear, hyear']
  grind

/-- Within a minute, what is shown of the second compares by seconds and then by milliseconds. -/
theorem secondShown_lt_iff {s t : Timestamp} (hs : s.IsShowable) (ht : t.IsShowable) :
    (s.secondShown < t.secondShown ∨
        s.secondShown = t.secondShown ∧ s.millisShown < t.millisShown) ↔
      s.secondOfDay % 60 < t.secondOfDay % 60 ∨
        s.secondOfDay % 60 = t.secondOfDay % 60 ∧ s.nanos / 1000000 < t.nanos / 1000000 := by
  have hlast (u : Timestamp) (hu : u.IsShowable) (hleap : 1000000000 ≤ u.nanos) :
      u.secondOfDay % 60 = 59 := by
    have hminute := hu.seconds_of_leap hleap
    rw [secondOfDay]
    omega
  have hs' := hlast s hs
  have ht' := hlast t ht
  rw [secondShown, secondShown, millisShown, millisShown]
  -- Seconds that are shown as sixty stand behind all others, and have more than all the
  -- milliseconds of the second before them.
  split
  · split
    · omega
    · omega
  · split
    · omega
    · omega

/-- On one day, what is shown of the time compares by seconds and then by milliseconds. -/
theorem timeChars_lt_iff {s t : Timestamp} (hs : s.IsShowable) (ht : t.IsShowable) :
    s.timeChars < t.timeChars ↔
      s.secondOfDay < t.secondOfDay ∨
        s.secondOfDay = t.secondOfDay ∧ s.nanos / 1000000 < t.nanos / 1000000 := by
  have hshown := secondShown_lt_iff hs ht
  rw [timeChars, timeChars,
    padded_append_lt_iff s.hourShown_lt t.hourShown_lt, List.cons_lt_cons_self,
    padded_append_lt_iff s.minuteShown_lt t.minuteShown_lt, List.cons_lt_cons_self,
    padded_append_lt_iff s.secondShown_lt t.secondShown_lt, List.cons_lt_cons_self,
    padded_append_lt_iff (millisShown_lt hs.nanos_lt) (millisShown_lt ht.nanos_lt)]
  simp only [List.lt_irrefl, and_false, or_false]
  rw [hshown]
  omega

/-- Texts of moments are in the order of time, for what they show of the moments. -/
theorem text_lt_iff {s t : Timestamp} (hs : s.IsShowable) (ht : t.IsShowable) :
    s.text < t.text ↔ s.truncated.IsBefore t.truncated := by
  have hs' := s.cast_secondOfDay
  have ht' := t.cast_secondOfDay
  rw [String.lt_iff, text, text, String.toList_ofList, String.toList_ofList,
    textChars_lt_iff hs ht, timeChars_lt_iff hs ht, utcDate, utcDate, Date.isBefore_ofDays_iff,
    Date.ofDays_inj, IsBefore, truncated, truncated]
  dsimp only
  omega

/-- Moments are told apart by their texts, for what these show. -/
theorem text_inj {s t : Timestamp} (hs : s.IsShowable) (ht : t.IsShowable) :
    s.text = t.text ↔ s.truncated = t.truncated := by
  constructor
  · intro h
    have hread := read?_text hs
    rw [h, read?_text ht] at hread
    exact (Option.some.inj hread).symm
  · intro h
    rw [← text_truncated s, h, text_truncated]

/-- A moment is read back from its text with what is finer than milliseconds cut off, and texts
compare as what is then left of the moments. So a text that stands for a moment in a query can be
compared with texts in its place. -/
theorem text_isFaithful {s t : Timestamp} (hs : s.IsShowable) (ht : t.IsShowable) :
    read? s.text = some s.truncated ∧ (s.text < t.text ↔ s.truncated.IsBefore t.truncated) ∧
      (s.text = t.text ↔ s.truncated = t.truncated) :=
  ⟨read?_text hs, text_lt_iff hs ht, text_inj hs ht⟩

/-- A moment inside a leap second, and one a fifth of a second behind it. -/
def leapMoment : Timestamp := ⟨1483228799, 1500000000⟩

def newYearMoment : Timestamp := ⟨1483228800, 200999999⟩

theorem text_isFaithful_leapSecond :
    leapMoment.IsShowable ∧ newYearMoment.IsShowable ∧
      read? leapMoment.text = some leapMoment.truncated ∧ leapMoment.text < newYearMoment.text ∧
      leapMoment.text ≠ newYearMoment.text := by
  have hleap : leapMoment.IsShowable := ⟨by decide, by decide, by decide, by decide⟩
  have hnext : newYearMoment.IsShowable := ⟨by decide, by decide, by decide, by decide⟩
  obtain ⟨hread, hlt, heq⟩ := text_isFaithful hleap hnext
  exact ⟨hleap, hnext, hread, hlt.2 (by decide), fun h ↦ absurd (heq.1 h) (by decide)⟩

/-- The leap second is shown as second sixty. -/
example : leapMoment.text = "2016-12-31T23:59:60.500Z" := by decide +kernel

end Timestamp

end Telemetry
