import Telemetry.Proofs.Time.Timestamp

/-!
# What can be read of a timestamp

Two limits of reading. What is read is a moment: nanoseconds go past a second only inside a leap
second, and that stands at the end of a minute (`isMoment_of_read?`). And what is shown cannot
always be read: a year with a sign and the letter before the time exclude each other in the
accepted forms, so a moment outside of the years with four digits is not read back
(`read?_text_eq_none`).
-/

namespace Telemetry

namespace Timestamp

/-! ## The moments that are read -/

/-- The nanoseconds of a moment lie within a second, or within a leap second at the end of a
minute. -/
structure IsMoment (t : Timestamp) : Prop where
  nanos_lt : t.nanos < 2000000000
  seconds_of_leap : 1000000000 ≤ t.nanos → t.seconds % 60 = 59

theorem IsMoment.isShowable {t : Timestamp} (h : t.IsMoment) (hnonneg : 0 ≤ t.utcDate.year)
    (hle : t.utcDate.year ≤ 9999) : t.IsShowable :=
  ⟨hnonneg, hle, h.nanos_lt, h.seconds_of_leap⟩

theorem fraction_lt {cs rest : List Char} {nanos : Nat} (h : fraction cs = some (nanos, rest)) :
    nanos < 1000000000 := by
  rw [fraction.eq_def] at h
  split at h
  · rename_i behind
    dsimp only at h
    split at h
    · cases h
    · obtain ⟨rfl, -⟩ := Prod.mk.inj (Option.some.inj h)
      have hlength := List.length_take_le 9 (behind.takeWhile Decimal.isDigit)
      have hdigits : ∀ c ∈ (behind.takeWhile Decimal.isDigit).take 9,
          Decimal.isDigit c = true := fun c hc ↦ List.mem_takeWhile_imp (List.mem_of_mem_take hc)
      have hvalue := Decimal.value_lt hdigits
      generalize (behind.takeWhile Decimal.isDigit).take 9 = kept at hlength hvalue ⊢
      calc Decimal.value kept * 10 ^ (9 - kept.length)
          < 10 ^ kept.length * 10 ^ (9 - kept.length) :=
            Nat.mul_lt_mul_of_pos_right hvalue (Nat.pow_pos (by decide))
        _ = 1000000000 := by rw [← Nat.pow_add, Nat.add_sub_cancel' hlength]
  · obtain ⟨rfl, -⟩ := Prod.mk.inj (Option.some.inj h)
    decide

/-- An offset is one of whole minutes. -/
def IsOfMinutes (readOffset : Scan Int) : Prop :=
  ∀ cs offset rest, readOffset cs = some (offset, rest) → offset % 60 = 0

theorem isOfMinutes_zulu : IsOfMinutes zulu := by
  intro cs offset rest h
  rw [zulu.eq_def] at h
  split at h
  · obtain ⟨rfl, -⟩ := Prod.mk.inj (Option.some.inj h); rfl
  · obtain ⟨rfl, -⟩ := Prod.mk.inj (Option.some.inj h); rfl
  · cases h

theorem isOfMinutes_offsetWith (gap : Scan Unit) (minutes : Scan Nat) :
    IsOfMinutes (offsetWith gap minutes) := by
  intro cs offset rest h
  simp only [offsetWith, Option.bind_eq_bind, Option.bind_eq_some_iff, Option.pure_def,
    Option.some.injEq, Prod.mk.injEq] at h
  obtain ⟨⟨negative, _⟩, -, ⟨hours, _⟩, -, _, -, ⟨minutes, _⟩, -, rfl, -⟩ := h
  dsimp only
  split <;> omega

theorem IsOfMinutes.orElse {first second : Scan Int} (h₁ : IsOfMinutes first)
    (h₂ : IsOfMinutes second) : IsOfMinutes fun cs ↦ first cs <|> second cs := by
  intro cs offset rest h
  cases hfirst : first cs with
  | none => exact h₂ cs offset rest (by simpa [hfirst] using h)
  | some p =>
    refine h₁ cs offset rest ?_
    simpa [hfirst] using h

theorem IsOfMinutes.comp {readOffset : Scan Int} (h : IsOfMinutes readOffset)
    (skip : List Char → List Char) : IsOfMinutes fun cs ↦ readOffset (skip cs) :=
  fun cs ↦ h (skip cs)

theorem isMoment_of_ofCivil? {date : Date} {hour minute second nanos : Nat} {offset : Int}
    {t : Timestamp} (hnanos : nanos < 1000000000) (hoffset : offset % 60 = 0)
    (h : ofCivil? date hour minute second nanos offset = some t) : t.IsMoment := by
  rw [ofCivil?] at h
  split at h
  · dsimp only at h
    split at h
    · split at h
      · obtain rfl := Option.some.inj h
        exact ⟨by dsimp only; omega, fun _ ↦ by dsimp only; omega⟩
      · cases h
    · split at h
      · obtain rfl := Option.some.inj h
        exact ⟨by dsimp only; omega, fun hle ↦ absurd hle (Nat.not_le.2 hnanos)⟩
      · cases h
  · cases h

theorem isMoment_of_readWith? {readYear : Scan Int} {readField : Scan Nat} {between : Scan Unit}
    {readOffset : Scan Int} (hoffset : IsOfMinutes readOffset) {cs : List Char} {t : Timestamp}
    (h : readWith? readYear readField between readOffset cs = some t) : t.IsMoment := by
  simp only [readWith?, bind_eq_some_iff] at h
  obtain ⟨_, -, _, -, _, -, _, -, _, -, _, -, _, -, _, -, _, -, _, -, _, -, ⟨nanos, _⟩, hfraction,
    ⟨offset, rest⟩, hread, h⟩ := h
  dsimp only at h
  split at h
  · exact isMoment_of_ofCivil? (fraction_lt hfraction) (hoffset _ _ _ hread) h
  · cases h

/-- What is read is a moment. -/
theorem isMoment_of_read? {s : String} {t : Timestamp} (h : read? s = some t) : t.IsMoment := by
  have hnone : IsOfMinutes noOffset := fun cs offset rest h ↦ by
    obtain ⟨rfl, -⟩ := Prod.mk.inj (Option.some.inj h)
    rfl
  have hstrict : IsOfMinutes strictOffset :=
    isOfMinutes_zulu.orElse (isOfMinutes_offsetWith _ _)
  have hloose : IsOfMinutes looseOffset :=
    (isOfMinutes_zulu.orElse (isOfMinutes_offsetWith _ _)).comp skipBlanks
  have hfull : IsOfMinutes fun cs ↦ fullOffset (skipBlanks cs) :=
    ((isOfMinutes_offsetWith _ _).comp skipBlanks).comp skipBlanks
  rw [read?, readChars?] at h
  simp only [Option.orElse_eq_orElse, Option.orElse_eq_or, Option.or_eq_some_iff] at h
  rcases h with h | ⟨-, h | ⟨-, h | ⟨-, h | ⟨-, h⟩⟩⟩⟩
  · exact isMoment_of_readWith? hstrict h
  · exact isMoment_of_readWith? hloose h
  · exact isMoment_of_readWith? hfull h
  · exact isMoment_of_readWith? hnone h
  · exact isMoment_of_readWith? hnone h

/-! ## The moments that are not read back -/

/-- A run of digits up to another character. -/
theorem number_digits {least most : Nat} {digits rest : List Char} {c : Char}
    (hdigits : ∀ d ∈ digits, Decimal.isDigit d = true) (hc : Decimal.isDigit c = false)
    (hleast : least ≤ digits.length) (hmost : digits.length ≤ most) :
    number least most (digits ++ c :: rest) = some (Decimal.value digits, c :: rest) := by
  have hrest : ((c :: rest).take (most - digits.length)).takeWhile Decimal.isDigit = [] := by
    cases most - digits.length with
    | zero => rfl
    | succ n => rw [List.take_succ_cons, List.takeWhile_cons_of_neg (by rw [hc]; decide)]
  have htake : ((digits ++ c :: rest).take most).takeWhile Decimal.isDigit = digits := by
    rw [List.take_append, List.take_of_length_le hmost, List.takeWhile_append_of_pos hdigits, hrest,
      List.append_nil]
  rw [number, htake]
  rw [if_neg (Nat.not_lt.2 hleast), List.drop_left]

theorem number_of_not_isDigit {least most : Nat} {c : Char} (hc : Decimal.isDigit c = false)
    (hleast : 0 < least) (rest : List Char) : number least most (c :: rest) = none := by
  have htake : ((c :: rest).take most).takeWhile Decimal.isDigit = [] := by
    cases most with
    | zero => rfl
    | succ n => rw [List.take_succ_cons, List.takeWhile_cons_of_neg (by rw [hc]; decide)]
  rw [number, htake]
  exact if_pos hleast

theorem skipBlanks_of_not_isBlank {c : Char} (hc : Text.isBlank c = false) (rest : List Char) :
    skipBlanks (c :: rest) = c :: rest := by
  rw [skipBlanks, List.dropWhile_cons_of_neg (by rw [hc]; decide)]

theorem skipBlanks_padded (width n : Nat) (rest : List Char) :
    skipBlanks (padded width n ++ rest) = padded width n ++ rest := by
  obtain ⟨c, cs, hcons, hdigit⟩ := exists_padded_eq_cons width n
  rw [hcons, List.cons_append, skipBlanks_of_not_isBlank (isBlank_of_isDigit hdigit)]

theorem field_padded {n : Nat} (h : n < 10 ^ 2) (rest : List Char) :
    field (padded 2 n ++ rest) = some (n, rest) := by
  rw [field, skipBlanks_padded, number_of_length (fun _ ↦ isDigit_of_mem_padded) (length_padded h)
    (by decide), value_padded]

/-- A sign and digits are read as a year. -/
theorem exists_year_signed {sign : Char} (h : sign = '-' ∨ sign = '+') (n : Nat)
    (rest : List Char) :
    ∃ y, year (sign :: (padded 4 n ++ '-' :: rest)) = some (y, '-' :: rest) := by
  have hpos : 0 < (padded 4 n).length := List.length_pos_iff.2 (padded_ne_nil 4 n)
  have hnumber : number 1 (padded 4 n ++ '-' :: rest).length (padded 4 n ++ '-' :: rest) =
      some (Decimal.value (padded 4 n), '-' :: rest) :=
    number_digits (fun _ ↦ isDigit_of_mem_padded) rfl hpos (by simp)
  rcases h with rfl | rfl
  · refine ⟨-(Decimal.value (padded 4 n) : Int), ?_⟩
    rw [year, skipBlanks_of_not_isBlank (by decide)]
    simp only
    rw [hnumber, Option.map_some]
  · refine ⟨(Decimal.value (padded 4 n) : Int), ?_⟩
    rw [year, skipBlanks_of_not_isBlank (by decide)]
    simp only
    rw [hnumber, Option.map_some]

theorem exists_yearText {y : Int} (h : y < 0 ∨ 9999 < y) :
    ∃ sign n, (sign = '-' ∨ sign = '+') ∧ yearText y = sign :: padded 4 n := by
  rcases h with h | h
  · exact ⟨'-', y.natAbs, .inl rfl, if_pos h⟩
  · refine ⟨'+', y.toNat, .inr rfl, ?_⟩
    rw [yearText, if_neg (by omega), if_pos h]

/-- The time of a moment, with its fraction, is read up to the letter behind it. -/
theorem fraction_millisShown {t : Timestamp} (h : t.nanos < 2000000000) :
    ∃ nanos, fraction ('.' :: (padded 3 t.millisShown ++ ['Z'])) = some (nanos, ['Z']) := by
  have hlength : (padded 3 t.millisShown).length = 3 := length_padded (millisShown_lt h)
  exact ⟨_, fraction_digits (padded_ne_nil _ _) (by omega) (fun _ ↦ isDigit_of_mem_padded) rfl⟩

/-- A year with a sign is read by the forms of databases only. Those with an offset do not take
the letter before the time, and the one that does takes no letter behind it. -/
theorem readChars?_textChars_eq_none {t : Timestamp} (h : t.IsMoment)
    (hyear : t.utcDate.year < 0 ∨ 9999 < t.utcDate.year) : readChars? t.textChars = none := by
  have hmonth := field_padded t.month_utcDate_lt
  have hday := field_padded t.day_utcDate_lt
  obtain ⟨sign, n, hsign, htext⟩ := exists_yearText hyear
  obtain ⟨y, hy⟩ := exists_year_signed hsign n
    (padded 2 t.utcDate.month ++ '-' :: (padded 2 t.utcDate.day ++ 'T' :: t.timeChars))
  rw [textChars_eq_yearText, htext, List.cons_append]
  have hstrict : number 4 4 (sign :: (padded 4 n ++ '-' :: (padded 2 t.utcDate.month ++
      '-' :: (padded 2 t.utcDate.day ++ 'T' :: t.timeChars)))) = none :=
    number_of_not_isDigit (by rcases hsign with rfl | rfl <;> rfl) (by decide) _
  have hspaced (readOffset : Scan Int) : readWith? year field blanks readOffset
      (sign :: (padded 4 n ++ '-' :: (padded 2 t.utcDate.month ++ '-' :: (padded 2 t.utcDate.day ++
        'T' :: t.timeChars)))) = none := by
    have hblanks : blanks ('T' :: t.timeChars) = some ((), 'T' :: t.timeChars) := by
      rw [blanks, skipBlanks_of_not_isBlank (by decide)]
    have hhour : field ('T' :: t.timeChars) = none := by
      rw [field, skipBlanks_of_not_isBlank (by decide), number_of_not_isDigit rfl (by decide)]
    simp only [readWith?, hy, hmonth, hday, hblanks, hhour, literal_cons_self, some_bind, none_bind]
  have hplain : readWith? year field (literal 'T') noOffset
      (sign :: (padded 4 n ++ '-' :: (padded 2 t.utcDate.month ++ '-' :: (padded 2 t.utcDate.day ++
        'T' :: t.timeChars)))) = none := by
    have hhour := field_padded t.hourShown_lt
    have hminute := field_padded t.minuteShown_lt
    have hsecond := field_padded t.secondShown_lt
    obtain ⟨nanos, hfraction⟩ := fraction_millisShown h.nanos_lt
    rw [timeChars] at hy ⊢
    simp only [readWith?, hy, hmonth, hday, hhour, hminute, hsecond, hfraction, literal_cons_self,
      noOffset, some_bind]
    rfl
  rw [readChars?, hspaced, hspaced, hspaced, hplain, readWith?, hstrict]
  rfl

/-- A moment whose year does not have four digits cannot be read from its text. -/
theorem read?_text_eq_none {t : Timestamp} (h : t.IsMoment)
    (hyear : t.utcDate.year < 0 ∨ 9999 < t.utcDate.year) : read? t.text = none := by
  have hlast : t.textChars.getLast? = some 'Z' := List.getLast?_concat
  have htrim : Text.trimChars t.textChars = t.textChars := by
    obtain ⟨sign, n, hsign, htext⟩ := exists_yearText hyear
    have hblank : Text.isBlank sign = false := by rcases hsign with rfl | rfl <;> rfl
    rw [textChars_eq_yearText, htext, List.cons_append] at hlast ⊢
    exact Text.trimChars_of_ends hblank hlast (by decide)
  rw [read?, text, String.toList_ofList, htrim, readChars?_textChars_eq_none h hyear]

end Timestamp

end Telemetry
