import Telemetry.Proofs.Text.Blank
import Telemetry.Proofs.Time.Order

/-!
# The spellings of a moment

A moment may come in many spellings: with the letter or a blank before the time, with a colon in the
offset or without one, with a blank before the offset, or without an offset. They are read by five
readers that are tried in turn, and each of these takes more than the spellings it is there for.

Every reader that gets past the separator before the time reads the same fields and is left with the
same rest, the zone (`readWith?_textChars`); it cannot stop early or late, because the fields have
their full widths. So the readers can only differ in what they make of the zone. The first one that
takes all of it decides, and its offset is the one that was meant. When the date does not exist, no
reader gives a moment (`moment?_of_not_isValid`).
-/

namespace Telemetry

/-! ## What is spelled -/

/-- A date and a time of day as they are written: four digits of a year, two of each other field,
and up to nine of a fraction of a second, if there is one. The date need not exist. -/
structure CivilTime where
  date : Date
  hour : Nat
  minute : Nat
  second : Nat
  /-- The digits of the fraction; none when there is no fraction. -/
  decimals : List Char
  year_nonneg : 0 ≤ date.year
  year_le : date.year ≤ 9999
  month_lt : date.month < 100
  day_lt : date.day < 100
  hour_lt : hour < 24
  minute_lt : minute < 60
  second_lt : second < 60
  length_decimals : decimals.length ≤ 9
  isDigit_decimals : ∀ c ∈ decimals, Decimal.isDigit c = true

/-- An offset from UTC of whole minutes, less than a day. -/
structure UtcOffset where
  negative : Bool
  hours : Nat
  minutes : Nat
  hours_lt : hours < 24
  minutes_lt : minutes < 60

namespace UtcOffset

/-- No offset. -/
def zero : UtcOffset := ⟨false, 0, 0, by decide, by decide⟩

/-- The offset in seconds. -/
def seconds (o : UtcOffset) : Int :=
  if o.negative then -(o.hours * 3600 + o.minutes * 60) else o.hours * 3600 + o.minutes * 60

def sign (o : UtcOffset) : Char := if o.negative then '-' else '+'

/-- The sign and the two digits of the hours, before something else. -/
def hoursChars (o : UtcOffset) (rest : List Char) : List Char :=
  o.sign :: (Timestamp.padded 2 o.hours ++ rest)

/-- Hours and minutes with a colon between them. -/
def colonChars (o : UtcOffset) : List Char := o.hoursChars (':' :: Timestamp.padded 2 o.minutes)

/-- Hours and minutes with nothing between them. -/
def compactChars (o : UtcOffset) : List Char := o.hoursChars (Timestamp.padded 2 o.minutes)

/-- The zones that may stand behind every time. A time without a zone is in UTC. -/
inductive IsZone : UtcOffset → List Char → Prop
  | colon (o : UtcOffset) : IsZone o o.colonChars
  | letter : IsZone zero ['Z']
  | missing : IsZone zero []

/-- The zones that databases write as well, behind a date and a time with a blank between them. -/
inductive IsDatabaseZone : UtcOffset → List Char → Prop
  | compact (o : UtcOffset) : IsDatabaseZone o o.compactChars
  | wholeHours (o : UtcOffset) (h : o.minutes = 0) : IsDatabaseZone o (o.hoursChars [])
  | apartColon (o : UtcOffset) : IsDatabaseZone o (' ' :: o.colonChars)
  | apartCompact (o : UtcOffset) : IsDatabaseZone o (' ' :: o.compactChars)

end UtcOffset

namespace CivilTime

variable (c : CivilTime)

/-- The nanoseconds of the fraction. -/
def nanos : Nat := Decimal.value c.decimals * 10 ^ (9 - c.decimals.length)

/-- The moment: the civil time less the offset. -/
def moment (o : UtcOffset) : Timestamp :=
  ⟨c.date.toDays * 86400 + (c.hour * 3600 + c.minute * 60 + c.second : Nat) - o.seconds, c.nanos⟩

/-- With the offset added, a moment is shown as the date and the time again. -/
theorem shown_moment (h : c.date.isValid = true) (o : UtcOffset) :
    Date.ofDays (((c.moment o).seconds + o.seconds) / 86400) = c.date ∧
      ((c.moment o).seconds + o.seconds) % 86400 =
        (c.hour * 3600 + c.minute * 60 + c.second : Nat) := by
  have hhour := c.hour_lt
  have hminute := c.minute_lt
  have hsecond := c.second_lt
  have hday : ((c.moment o).seconds + o.seconds) / 86400 = c.date.toDays := by
    rw [moment]
    dsimp only
    omega
  refine ⟨by rw [hday, Date.ofDays_toDays h], ?_⟩
  rw [moment]
  dsimp only
  omega

/-- The fraction behind a point, if there is one. -/
def fractionChars : List Char := if c.decimals = [] then [] else '.' :: c.decimals

/-- The time of day, before a zone. -/
def timeChars (zone : List Char) : List Char :=
  Timestamp.padded 2 c.hour ++ ':' :: (Timestamp.padded 2 c.minute ++
    ':' :: (Timestamp.padded 2 c.second ++ (c.fractionChars ++ zone)))

/-- The date, a separator, the time of day, and a zone. -/
def textChars (separator : Char) (zone : List Char) : List Char :=
  Timestamp.padded 4 c.date.year.toNat ++ '-' :: (Timestamp.padded 2 c.date.month ++
    '-' :: (Timestamp.padded 2 c.date.day ++ separator :: c.timeChars zone))

/-- The spellings of a date and a time with an offset. -/
inductive IsSpelling (o : UtcOffset) : List Char → Prop
  | letter {zone : List Char} (h : o.IsZone zone) : IsSpelling o (c.textChars 'T' zone)
  | blank {zone : List Char} (h : o.IsZone zone) : IsSpelling o (c.textChars ' ' zone)
  | database {zone : List Char} (h : o.IsDatabaseZone zone) : IsSpelling o (c.textChars ' ' zone)

end CivilTime

namespace Date

/-- The day number of a date with four digits for the year. -/
theorem toDays_mem {d : Date} (h : d.isValid = true) (hnonneg : 0 ≤ d.year)
    (hle : d.year ≤ 9999) : -720000 ≤ d.toDays ∧ d.toDays ≤ 2940000 := by
  have hday := dayOfYear_lt h
  have hyear : -1 ≤ d.yearFromMarch ∧ d.yearFromMarch ≤ 9999 := by
    rw [yearFromMarch]
    split <;> omega
  rw [toDays_eq]
  rw [daysBefore, daysBefore] at hday
  rw [daysBefore]
  omega

/-- No day in ten thousand years around lies in a year that is out of reach. -/
theorem year_ofDays_mem {days : Int} (hlow : -721000 ≤ days) (hhigh : days ≤ 2941000) :
    Timestamp.minYear ≤ (ofDays days).year ∧ (ofDays days).year ≤ Timestamp.maxYear := by
  obtain ⟨era, year, day, hyear, hday, hdays, hdate⟩ := exists_ofDays days
  have hfirst : firstDay year = 365 * year + year / 4 - year / 100 := rfl
  have hlast : day ≤ 365 := Nat.le_trans hday (lastDayOfYear_le year)
  have hera : -2 ≤ era ∧ era ≤ 26 := by omega
  rw [hdate, Timestamp.minYear, Timestamp.maxYear]
  dsimp only
  split
  · omega
  · omega

end Date

namespace Timestamp

/-! ## The fields of a text -/

theorem year_padded {n : Nat} (h : n < 10 ^ 4) (rest : List Char) :
    year (padded 4 n ++ rest) = some ((n : Int), rest) := by
  obtain ⟨c, cs, hcons, hdigit⟩ := exists_padded_eq_cons 4 n
  have hnumber : number 1 4 (padded 4 n ++ rest) = _ :=
    number_of_length (fun _ ↦ isDigit_of_mem_padded) (length_padded h) (by decide) rest
  rw [value_padded] at hnumber
  rw [year, skipBlanks_padded]
  rw [hcons, List.cons_append] at hnumber ⊢
  split
  · rename_i heq
    rw [(List.cons.inj heq).1] at hdigit
    cases hdigit
  · rename_i heq
    rw [(List.cons.inj heq).1] at hdigit
    cases hdigit
  · rw [hnumber, Option.map_some]

end Timestamp

/-! ## Zones -/

namespace UtcOffset

open Timestamp

variable (o : UtcOffset)

theorem hours_lt_pow : o.hours < 10 ^ 2 := Nat.lt_trans o.hours_lt (by decide)

theorem minutes_lt_pow : o.minutes < 10 ^ 2 := Nat.lt_trans o.minutes_lt (by decide)

theorem natAbs_seconds_lt : o.seconds.natAbs < 86400 := by
  have hhours := o.hours_lt
  have hminutes := o.minutes_lt
  rw [seconds]
  split <;> omega

theorem offsetSign_sign (rest : List Char) :
    offsetSign (o.sign :: rest) = some (o.negative, rest) := by
  rw [sign]
  cases o.negative <;> rfl

theorem sign_cases : o.sign = '-' ∨ o.sign = '+' := by
  rw [sign]
  cases o.negative
  · exact .inr rfl
  · exact .inl rfl

theorem zulu_hoursChars (rest : List Char) : zulu (o.hoursChars rest) = none := by
  rw [hoursChars]
  rcases o.sign_cases with h | h <;> rw [h] <;> rfl

/-- An offset is read by its sign and hours, and then as the gap and the minutes are. -/
theorem offsetWith_hoursChars {gap : Scan Unit} {readMinutes : Scan Nat}
    {rest behind : List Char} (hgap : gap rest = some ((), behind))
    (hminutes : readMinutes behind = some (o.minutes, [])) :
    offsetWith gap readMinutes (o.hoursChars rest) = some (o.seconds, []) := by
  simp only [offsetWith, hoursChars, offsetSign_sign, number_padded o.hours_lt_pow, hgap, hminutes,
    Option.bind_eq_bind, Option.bind_some, seconds, Option.pure_def]

theorem offsetWith_hoursChars_eq_none {gap : Scan Unit} {readMinutes : Scan Nat}
    {rest : List Char} (hgap : gap rest = none) :
    offsetWith gap readMinutes (o.hoursChars rest) = none := by
  simp only [offsetWith, hoursChars, offsetSign_sign, number_padded o.hours_lt_pow, hgap,
    Option.bind_eq_bind, Option.bind_some, Option.bind_none]

theorem offsetMinutes_padded : offsetMinutes (padded 2 o.minutes) = some (o.minutes, []) := by
  have hnumber := number_padded o.minutes_lt_pow []
  rw [List.append_nil] at hnumber
  rw [offsetMinutes, hnumber]
  exact if_pos o.minutes_lt

theorem dropWhile_isOffsetGap_padded (width n : Nat) :
    (padded width n).dropWhile isOffsetGap = padded width n := by
  obtain ⟨c, cs, hcons, hdigit⟩ := exists_padded_eq_cons width n
  have hgap : isOffsetGap c = false := by
    rw [isOffsetGap, isBlank_of_isDigit hdigit, Bool.or_false, decide_eq_false_iff_not]
    rintro rfl
    cases hdigit
  rw [hcons, List.dropWhile_cons_of_neg (by rw [hgap]; decide)]

theorem strictOffset_colonChars : strictOffset o.colonChars = some (o.seconds, []) := by
  have hread : offsetWith (literal ':') offsetMinutes o.colonChars = some (o.seconds, []) :=
    o.offsetWith_hoursChars rfl o.offsetMinutes_padded
  rw [strictOffset, hread, colonChars, zulu_hoursChars]
  rfl

/-- Without a colon, the internet form has no offset. -/
theorem strictOffset_hoursChars_eq_none {rest : List Char} (h : literal ':' rest = none) :
    strictOffset (o.hoursChars rest) = none := by
  rw [strictOffset, o.offsetWith_hoursChars_eq_none h, zulu_hoursChars]
  rfl

theorem literal_padded_eq_none (n : Nat) : literal ':' (padded 2 n) = none := by
  obtain ⟨c, cs, hcons, hdigit⟩ := exists_padded_eq_cons 2 n
  rw [hcons, literal, if_neg]
  rintro rfl
  cases hdigit

/-- Databases write an offset with a colon or without one, and leave out minutes that are zero. -/
theorem looseOffset_hoursChars {rest behind : List Char}
    (hgap : rest.dropWhile isOffsetGap = behind)
    (hminutes : behind = padded 2 o.minutes ∨ behind = [] ∧ o.minutes = 0) :
    looseOffset (o.hoursChars rest) = some (o.seconds, []) := by
  have hskip : skipBlanks (o.hoursChars rest) = o.hoursChars rest := by
    rw [hoursChars]
    rcases o.sign_cases with h | h
    · rw [h, skipBlanks_of_not_isBlank (by decide)]
    · rw [h, skipBlanks_of_not_isBlank (by decide)]
  have hread : offsetWith looseGap (fun rest ↦ if rest.isEmpty then some (0, []) else
      offsetMinutes rest) (o.hoursChars rest) = some (o.seconds, []) := by
    refine o.offsetWith_hoursChars (congrArg (fun cs ↦ some ((), cs)) hgap) ?_
    rcases hminutes with rfl | ⟨rfl, hzero⟩
    · rw [if_neg (by rw [List.isEmpty_iff]; exact padded_ne_nil _ _), offsetMinutes_padded]
    · rw [hzero]
      rfl
  rw [looseOffset, hskip, hread, zulu_hoursChars]
  rfl

theorem looseOffset_colonChars : looseOffset o.colonChars = some (o.seconds, []) :=
  o.looseOffset_hoursChars ((List.dropWhile_cons_of_pos rfl).trans
    (dropWhile_isOffsetGap_padded 2 o.minutes)) (.inl rfl)

theorem looseOffset_compactChars : looseOffset o.compactChars = some (o.seconds, []) :=
  o.looseOffset_hoursChars (dropWhile_isOffsetGap_padded 2 o.minutes) (.inl rfl)

/-- A blank may stand before the offset of a database. -/
theorem looseOffset_blank_cons (zone : List Char) : looseOffset (' ' :: zone) = looseOffset zone :=
  rfl

variable {o} {zone : List Char}

/-- The zone of a database is none of the internet form, and its offset is the one that is meant. -/
theorem IsDatabaseZone.offsets (h : o.IsDatabaseZone zone) :
    strictOffset zone = none ∧ looseOffset zone = some (o.seconds, []) := by
  cases h with
  | compact =>
    exact ⟨o.strictOffset_hoursChars_eq_none (literal_padded_eq_none _), o.looseOffset_compactChars⟩
  | wholeHours h =>
    exact ⟨o.strictOffset_hoursChars_eq_none rfl, o.looseOffset_hoursChars rfl (.inr ⟨rfl, h⟩)⟩
  | apartColon => exact ⟨rfl, (looseOffset_blank_cons _).trans o.looseOffset_colonChars⟩
  | apartCompact => exact ⟨rfl, (looseOffset_blank_cons _).trans o.looseOffset_compactChars⟩

/-- Every other zone is read by the internet form, but for a missing one. -/
theorem IsZone.offset (h : o.IsZone zone) :
    strictOffset zone = some (o.seconds, []) ∨ zone = [] ∧ o = zero := by
  cases h with
  | colon => exact .inl o.strictOffset_colonChars
  | letter => exact .inl rfl
  | missing => exact .inr ⟨rfl, rfl⟩

/-- A zone can be told from a fraction before it, and does not end with a blank. -/
structure IsApart (zone : List Char) : Prop where
  first : ∀ d ∈ zone.head?, d ≠ '.' ∧ Decimal.isDigit d = false
  last : ∀ d ∈ zone.getLast?, Text.isBlank d = false

theorem isBlank_of_mem_padded {width n : Nat} {d : Char} (h : d ∈ padded width n) :
    Text.isBlank d = false := isBlank_of_isDigit (isDigit_of_mem_padded h)

/-- Behind something without blanks, a zone leaves no blank at the end. -/
theorem IsApart.isBlank_of_mem_getLast? (h : IsApart zone) {front ink : List Char} (hne : ink ≠ [])
    (hink : ∀ e ∈ ink, Text.isBlank e = false) {d : Char}
    (hd : d ∈ (front ++ (ink ++ zone)).getLast?) : Text.isBlank d = false := by
  rw [List.getLast?_append, List.getLast?_append, List.getLast?_eq_some_getLast hne,
    Option.mem_def, Option.or_some, Option.some_or, Option.some.injEq] at hd
  cases hlast : zone.getLast? with
  | none =>
    rw [hlast] at hd
    exact hink d (hd ▸ List.getLast_mem hne)
  | some e =>
    rw [hlast] at hd
    exact h.last d (hlast.trans (congrArg some hd))

theorem isApart_hoursChars (o : UtcOffset) {rest : List Char}
    (h : ∀ d ∈ rest, Text.isBlank d = false) : IsApart (o.hoursChars rest) := by
  have hsign : o.sign ≠ '.' ∧ Decimal.isDigit o.sign = false ∧ Text.isBlank o.sign = false := by
    rcases o.sign_cases with hsign | hsign <;> rw [hsign] <;> decide
  refine ⟨fun d hd ↦ ?_, fun d hd ↦ ?_⟩
  · obtain rfl := Option.some.inj hd
    exact ⟨hsign.1, hsign.2.1⟩
  · have hmem := List.mem_of_getLast? hd
    rw [hoursChars, List.mem_cons, List.mem_append] at hmem
    rcases hmem with rfl | hmem | hmem
    · exact hsign.2.2
    · exact isBlank_of_mem_padded hmem
    · exact h d hmem

theorem isApart_colonChars (o : UtcOffset) : IsApart o.colonChars :=
  isApart_hoursChars o fun d hd ↦ by
    rcases List.mem_cons.1 hd with rfl | hd
    · rfl
    · exact isBlank_of_mem_padded hd

theorem isApart_compactChars (o : UtcOffset) : IsApart o.compactChars :=
  isApart_hoursChars o fun _ ↦ isBlank_of_mem_padded

theorem IsApart.blank_cons {c : Char} {cs : List Char} (h : IsApart (c :: cs)) :
    IsApart (' ' :: c :: cs) where
  first d hd := by
    obtain rfl := Option.some.inj hd
    decide
  last d hd := h.last d (by rwa [List.getLast?_cons_cons] at hd)

theorem IsZone.isApart (h : o.IsZone zone) : IsApart zone := by
  cases h with
  | colon => exact isApart_colonChars o
  | letter => exact ⟨fun d hd ↦ by obtain rfl := Option.some.inj hd; decide,
      fun d hd ↦ by obtain rfl := Option.some.inj hd; decide⟩
  | missing => exact ⟨nofun, nofun⟩

theorem IsDatabaseZone.isApart (h : o.IsDatabaseZone zone) : IsApart zone := by
  cases h with
  | compact => exact isApart_compactChars o
  | wholeHours => exact isApart_hoursChars o nofun
  | apartColon => exact (isApart_colonChars o).blank_cons
  | apartCompact => exact (isApart_compactChars o).blank_cons

end UtcOffset

/-! ## Times -/

namespace CivilTime

open Timestamp

variable (c : CivilTime) {zone : List Char}

theorem fraction_fractionChars (h : UtcOffset.IsApart zone) :
    fraction (c.fractionChars ++ zone) = some (c.nanos, zone) := by
  rw [fractionChars]
  by_cases hnone : c.decimals = []
  · have hnanos : c.nanos = 0 := by
      rw [nanos, hnone]
      rfl
    rw [if_pos hnone, hnanos, List.nil_append, fraction.eq_def]
    split
    · exact absurd rfl (h.first '.' rfl).1
    · rfl
  · have hzone : zone.takeWhile Decimal.isDigit = [] := by
      cases zone with
      | nil => rfl
      | cons d zone => rw [List.takeWhile_cons_of_neg (by rw [(h.first d rfl).2]; decide)]
    rw [if_neg hnone, List.cons_append, fraction_digits hnone c.length_decimals c.isDigit_decimals
      hzone]
    rfl

/-- The moment that an offset gives, if it was all that was left. -/
def moment? (read : Option (Int × List Char)) : Option Timestamp :=
  read.bind fun p ↦ if p.2.isEmpty then
    ofCivil? c.date c.hour c.minute c.second c.nanos p.1 else none

/-- No offset makes a moment of a date that does not exist. -/
theorem moment?_of_not_isValid (h : ¬ c.date.isValid = true) (read : Option (Int × List Char)) :
    c.moment? read = none := by
  have hnone (offset : Int) :
      ofCivil? c.date c.hour c.minute c.second c.nanos offset = none := by
    rw [ofCivil?, if_neg]
    simp only [Bool.and_eq_true, h, Bool.false_eq_true, false_and, not_false_eq_true]
  cases read with
  | none => rfl
  | some p =>
    rw [moment?, Option.bind_some, hnone, ite_self]

theorem moment?_of_isValid (h : c.date.isValid = true) (o : UtcOffset) :
    c.moment? (some (o.seconds, [])) = some (c.moment o) := by
  have hhour := c.hour_lt
  have hminute := c.minute_lt
  have hsecond := c.second_lt
  have hoffset := o.natAbs_seconds_lt
  obtain ⟨hlow, hhigh⟩ := Date.toDays_mem h c.year_nonneg c.year_le
  have hyear : minYear ≤ (Date.ofDays ((c.moment o).seconds / 86400)).year ∧
      (Date.ofDays ((c.moment o).seconds / 86400)).year ≤ maxYear :=
    Date.year_ofDays_mem (by rw [moment]; dsimp only; omega) (by rw [moment]; dsimp only; omega)
  have hcond : (c.date.isValid && minYear ≤ c.date.year && c.date.year ≤ maxYear &&
      c.hour < 24 && c.minute < 60 && c.second ≤ 60 && o.seconds.natAbs < 86400) = true := by
    simp only [Bool.and_eq_true, decide_eq_true_eq]
    exact ⟨⟨⟨⟨⟨⟨h, Int.le_trans (by decide) c.year_nonneg⟩, Int.le_trans c.year_le (by decide)⟩,
      hhour⟩, hminute⟩, Nat.le_of_lt hsecond⟩, hoffset⟩
  have htime : c.date.toDays * 86400 + ((c.hour : Int) * 3600 + (c.minute : Int) * 60 +
      ((if c.second = 60 then 59 else c.second : Nat) : Int)) - o.seconds =
        (c.moment o).seconds := by
    rw [if_neg (by omega), moment]
    dsimp only
    omega
  change ofCivil? c.date c.hour c.minute c.second c.nanos o.seconds = _
  rw [ofCivil?, if_pos hcond]
  dsimp only
  rw [htime, if_pos (by simpa using hyear), if_neg (by omega)]
  rfl

/-- A reader that gets past the separator reads every field, and is left with the zone. -/
theorem readWith?_textChars {readYear : Scan Int} {readField : Scan Nat} {between : Scan Unit}
    {readOffset : Scan Int} {separator : Char} (hzone : UtcOffset.IsApart zone)
    (hyear : ∀ n < 10 ^ 4, ∀ rest, readYear (padded 4 n ++ rest) = some ((n : Int), rest))
    (hfield : ∀ n < 10 ^ 2, ∀ rest, readField (padded 2 n ++ rest) = some (n, rest))
    (hbetween : between (separator :: c.timeChars zone) = some ((), c.timeChars zone)) :
    readWith? readYear readField between readOffset (c.textChars separator zone) =
      c.moment? (readOffset zone) := by
  have hnonneg := c.year_nonneg
  have hle := c.year_le
  have hcast : ((c.date.year.toNat : Nat) : Int) = c.date.year := Int.toNat_of_nonneg hnonneg
  have hdate := hyear c.date.year.toNat (by omega)
  have htwo (n : Nat) (hn : n < 100) := hfield n hn
  simp only [readWith?, textChars, timeChars, hdate, htwo c.date.month c.month_lt,
    htwo c.date.day c.day_lt, literal_cons_self, some_bind]
  rw [timeChars] at hbetween
  simp only [hbetween, htwo c.hour (Nat.lt_trans c.hour_lt (by decide)),
    htwo c.minute (Nat.lt_trans c.minute_lt (by decide)),
    htwo c.second (Nat.lt_trans c.second_lt (by decide)), literal_cons_self,
    c.fraction_fractionChars hzone, hcast, some_bind]
  rfl

/-- A reader that does not get past the separator reads nothing. -/
theorem readWith?_textChars_eq_none {readYear : Scan Int} {readField : Scan Nat}
    {between : Scan Unit} {readOffset : Scan Int} {separator : Char}
    (hyear : ∀ n < 10 ^ 4, ∀ rest, readYear (padded 4 n ++ rest) = some ((n : Int), rest))
    (hfield : ∀ n < 10 ^ 2, ∀ rest, readField (padded 2 n ++ rest) = some (n, rest))
    (hbetween : (between (separator :: c.timeChars zone)).bind (fun p ↦ readField p.2) = none) :
    readWith? readYear readField between readOffset (c.textChars separator zone) = none := by
  have hnonneg := c.year_nonneg
  have hle := c.year_le
  have hdate := hyear c.date.year.toNat (by omega)
  simp only [readWith?, textChars, hdate, hfield c.date.month c.month_lt,
    hfield c.date.day c.day_lt, literal_cons_self, some_bind]
  cases hread : between (separator :: c.timeChars zone) with
  | none => rfl
  | some p =>
    rw [hread, Option.bind_some] at hbetween
    rw [some_bind, hbetween, none_bind]

/-! ## Spellings -/

theorem skipBlanks_timeChars (zone : List Char) :
    skipBlanks (c.timeChars zone) = c.timeChars zone := skipBlanks_padded 2 c.hour _

section

variable (hzone : UtcOffset.IsApart zone)

include hzone

/-- With the letter before the time, the internet form is tried, and then the form without a
zone. -/
theorem readChars?_letter : readChars? (c.textChars 'T' zone) =
    (c.moment? (strictOffset zone) <|> c.moment? (some (0, zone))) := by
  have hspaced (readOffset : Scan Int) :
      readWith? year field blanks readOffset (c.textChars 'T' zone) = none := by
    refine c.readWith?_textChars_eq_none (fun n hn ↦ year_padded hn) (fun n hn ↦ field_padded hn) ?_
    rw [blanks, skipBlanks_of_not_isBlank (by decide), Option.bind_some, field,
      skipBlanks_of_not_isBlank (by decide), number_of_not_isDigit rfl (by decide)]
  rw [readChars?, hspaced, hspaced, hspaced,
    c.readWith?_textChars hzone (fun n hn rest ↦ by rw [number_padded hn, Option.map_some])
      (fun n hn ↦ number_padded hn) rfl,
    c.readWith?_textChars hzone (fun n hn ↦ year_padded hn) (fun n hn ↦ field_padded hn) rfl]
  rfl

/-- With a blank before the time, the internet form is tried, and then those of databases. -/
theorem readChars?_blank : readChars? (c.textChars ' ' zone) =
    (c.moment? (strictOffset zone) <|> c.moment? (looseOffset zone) <|>
      c.moment? (fullOffset (skipBlanks zone)) <|> c.moment? (some (0, zone))) := by
  have hspaced (readOffset : Scan Int) : readWith? year field blanks readOffset
      (c.textChars ' ' zone) = c.moment? (readOffset zone) := by
    refine c.readWith?_textChars hzone (fun n hn ↦ year_padded hn) (fun n hn ↦ field_padded hn) ?_
    rw [blanks, skipBlanks, List.dropWhile_cons_of_pos rfl, ← skipBlanks, skipBlanks_timeChars]
  have hletter : readWith? year field (literal 'T') noOffset (c.textChars ' ' zone) = none :=
    c.readWith?_textChars_eq_none (fun n hn ↦ year_padded hn) (fun n hn ↦ field_padded hn) rfl
  rw [readChars?, hspaced, hspaced, hspaced, hletter,
    c.readWith?_textChars hzone (fun n hn rest ↦ by rw [number_padded hn, Option.map_some])
      (fun n hn ↦ number_padded hn) rfl]
  simp only [noOffset, Option.orElse_eq_orElse, Option.orElse_eq_or, Option.or_none]

end

variable {c} {o : UtcOffset} {cs : List Char}

/-- A spelling is read as the moment that is spelled, or not at all when the date does not exist. -/
theorem readChars?_of_isSpelling (h : c.IsSpelling o cs) :
    readChars? cs = if c.date.isValid then some (c.moment o) else none := by
  by_cases hvalid : c.date.isValid = true
  · have hread := c.moment?_of_isValid hvalid
    rw [if_pos hvalid]
    cases h with
    | letter h =>
      rw [c.readChars?_letter h.isApart]
      rcases h.offset with hstrict | ⟨rfl, rfl⟩
      · rw [hstrict, hread]
        rfl
      · exact hread UtcOffset.zero
    | blank h =>
      rw [c.readChars?_blank h.isApart]
      rcases h.offset with hstrict | ⟨rfl, rfl⟩
      · rw [hstrict, hread]
        rfl
      · exact hread UtcOffset.zero
    | database h =>
      obtain ⟨hstrict, hloose⟩ := h.offsets
      rw [c.readChars?_blank h.isApart, hstrict, hloose, hread]
      rfl
  · have hnone := c.moment?_of_not_isValid hvalid
    rw [if_neg hvalid]
    cases h with
    | letter h => rw [c.readChars?_letter h.isApart, hnone, hnone]; rfl
    | blank h => rw [c.readChars?_blank h.isApart, hnone, hnone, hnone, hnone]; rfl
    | database h => rw [c.readChars?_blank h.isApart, hnone, hnone, hnone, hnone]; rfl

theorem isBlank_of_mem_fractionChars {d : Char} (h : d ∈ c.fractionChars) :
    Text.isBlank d = false := by
  rw [fractionChars] at h
  split at h
  · exact absurd h List.not_mem_nil
  · rcases List.mem_cons.1 h with rfl | h
    · rfl
    · exact isBlank_of_isDigit (c.isDigit_decimals d h)

/-- No spelling ends with a blank. -/
theorem isBlank_of_mem_getLast?_textChars {separator d : Char} (hzone : UtcOffset.IsApart zone)
    (h : d ∈ (c.textChars separator zone).getLast?) : Text.isBlank d = false := by
  have hsplit : c.textChars separator zone =
      (padded 4 c.date.year.toNat ++ '-' :: (padded 2 c.date.month ++ '-' ::
        (padded 2 c.date.day ++ separator :: (padded 2 c.hour ++ ':' ::
          (padded 2 c.minute ++ [':']))))) ++ ((padded 2 c.second ++ c.fractionChars) ++ zone) := by
    simp only [textChars, timeChars, List.append_assoc, List.cons_append, List.nil_append]
  rw [hsplit] at h
  refine hzone.isBlank_of_mem_getLast? ?_ (fun e he ↦ ?_) h
  · exact List.append_ne_nil_of_left_ne_nil (padded_ne_nil 2 c.second) _
  · rcases List.mem_append.1 he with he | he
    · exact UtcOffset.isBlank_of_mem_padded he
    · exact isBlank_of_mem_fractionChars he

theorem trimChars_textChars {separator : Char} (hzone : UtcOffset.IsApart zone) :
    Text.trimChars (c.textChars separator zone) = c.textChars separator zone := by
  have hlast (d : Char) (h : d ∈ (c.textChars separator zone).getLast?) :=
    isBlank_of_mem_getLast?_textChars hzone h
  obtain ⟨d, cs, hcons, hdigit⟩ := exists_padded_eq_cons 4 c.date.year.toNat
  rw [textChars, hcons, List.cons_append] at hlast ⊢
  exact Text.trimChars_of_ends (isBlank_of_isDigit hdigit) List.getLast?_cons
    (hlast _ List.getLast?_cons)

theorem trimChars_of_isSpelling (h : c.IsSpelling o cs) : Text.trimChars cs = cs := by
  cases h with
  | letter h => exact trimChars_textChars h.isApart
  | blank h => exact trimChars_textChars h.isApart
  | database h => exact trimChars_textChars h.isApart

/-- A spelling is read as the moment that is spelled, which is the civil time less the offset.
Blanks around it change nothing. When the date does not exist, no spelling is read. -/
theorem IsSpelling.gives_moment (h : c.IsSpelling o cs) {before after : List Char}
    (hbefore : ∀ b ∈ before, Text.isBlank b = true) (hafter : ∀ b ∈ after, Text.isBlank b = true) :
    Timestamp.read? (String.ofList (before ++ cs ++ after)) =
      if c.date.isValid then some (c.moment o) else none := by
  rw [read?, String.toList_ofList, Text.trimChars_append_append hbefore hafter,
    trimChars_of_isSpelling h, readChars?_of_isSpelling h]

/-- The half past eleven of an evening, and half a second. -/
def lastEvening : CivilTime where
  date := ⟨1999, 12, 31⟩
  hour := 23
  minute := 30
  second := 0
  decimals := ['5']
  year_nonneg := by decide
  year_le := by decide
  month_lt := by decide
  day_lt := by decide
  hour_lt := by decide
  minute_lt := by decide
  second_lt := by decide
  length_decimals := by decide
  isDigit_decimals := List.forall_mem_singleton.2 rfl

/-- The offset of a place in the west. -/
def western : UtcOffset := ⟨true, 1, 30, by decide, by decide⟩

/-- In the west, the evening of a year is the first morning of the next one in UTC. -/
theorem gives_moment_lastEvening :
    lastEvening.IsSpelling western "1999-12-31 23:30:00.5 -0130".toList ∧
      Timestamp.read? (String.ofList
        (['\t'] ++ "1999-12-31 23:30:00.5 -0130".toList ++ [' ', '\n'])) =
          some ⟨946688400, 500000000⟩ := by
  have htext : "1999-12-31 23:30:00.5 -0130".toList =
      lastEvening.textChars ' ' (' ' :: western.compactChars) := by decide +kernel
  have hspelling : lastEvening.IsSpelling western "1999-12-31 23:30:00.5 -0130".toList := by
    rw [htext]
    exact .database (.apartCompact western)
  have hbefore : ∀ b ∈ ['\t'], Text.isBlank b = true := List.forall_mem_singleton.2 rfl
  have hafter : ∀ b ∈ [' ', '\n'], Text.isBlank b = true :=
    List.forall_mem_cons.2 ⟨rfl, List.forall_mem_singleton.2 rfl⟩
  exact ⟨hspelling, (hspelling.gives_moment hbefore hafter).trans (by decide +kernel)⟩

end CivilTime

end Telemetry
