import Mathlib.Data.List.Infix
import Telemetry.Proofs.Format.Json

/-!
# What a reader leaves of a text

A reader takes one value from the front of a text. Where the text ends with the line of an object
and something stands before it, no array and no object that begins before the line can end inside
it: the reader leaves the whole line, or it fails (`suffix_of_readMembers?`,
`suffix_of_readElements?`).

A quoted text is different. One that is open where the line begins goes on to the first quote of
the line, and breaks it there. But the letter behind that quote is no token, so nothing is read any
further (`Remains.suffix_of_token`).
-/

namespace Telemetry.Json

/-- The line of an object. Read as a value, it is read to its end. -/
structure IsObjectLine (line : List Char) : Prop where
  opens : ∃ rest, line = '\x7b' :: '"' :: 't' :: rest
  whole : ∀ strict fuel v rest, readValue? strict fuel line = some (v, rest) → rest = []

section Suffix

variable {line cs rest more : List Char} {c : Char} {strict : Bool}

/-! ## A line at the end -/

theorem IsObjectLine.suffix_of_cons (hline : IsObjectLine line) (hc : c ≠ '\x7b')
    (h : line <:+ c :: cs) : line <:+ cs := by
  obtain ⟨rest, hopens⟩ := hline.opens
  rcases List.suffix_cons_iff.1 h with heq | h
  · rw [hopens] at heq
    exact absurd (List.head_eq_of_cons_eq heq).symm hc
  · exact h

theorem IsObjectLine.suffix_dropWhile (hline : IsObjectLine line) {p : Char → Bool}
    (hp : p '\x7b' = false) (h : line <:+ cs) : line <:+ cs.dropWhile p := by
  induction cs with
  | nil => exact h
  | cons c cs ih =>
    by_cases hc : p c = true
    · rw [List.dropWhile_cons_of_pos hc]
      refine ih (hline.suffix_of_cons ?_ h)
      rintro rfl
      rw [hp] at hc
      cases hc
    · rw [List.dropWhile_cons_of_neg hc]
      exact h

theorem IsObjectLine.suffix_skipSpace (hline : IsObjectLine line) (h : line <:+ cs) :
    line <:+ skipSpace cs := hline.suffix_dropWhile rfl h

/-- What a reader leaves: the line with something before it, what is behind its first quote, or
nothing. -/
def Remains (line rest : List Char) : Prop :=
  line <:+ rest ∨ (∃ broken, rest = 't' :: broken) ∨ rest = []

/-- Behind a token the whole line is left. -/
theorem Remains.suffix_of_token (hline : IsObjectLine line) (h : Remains line rest)
    (htoken : skipSpace rest = c :: more) (hc : c ≠ '\x7b') (ht : c ≠ 't') : line <:+ more := by
  rcases h with h | ⟨broken, rfl⟩ | rfl
  · have hskip := hline.suffix_skipSpace h
    rw [htoken] at hskip
    exact hline.suffix_of_cons hc hskip
  · exact absurd (List.head_eq_of_cons_eq htoken).symm ht
  · cases htoken

/-! ## Quoted texts -/

theorem suffix_of_readHex4? (hline : IsObjectLine line) {n : Nat} (h : line <:+ cs)
    (hread : readHex4? cs = some (n, rest)) : line <:+ rest := by
  have hhex {c : Char} {n : Nat} (hc : hexValue? c = some n) : c ≠ '\x7b' := by
    rintro rfl
    cases hc
  rw [readHex4?.eq_def] at hread
  split at hread
  · rename_i a b c d cs
    simp only [Option.bind_eq_bind, Option.bind_eq_some_iff, Option.pure_def, Option.some.injEq,
      Prod.mk.injEq] at hread
    obtain ⟨_, ha, _, hb, _, hc, _, hd, -, rfl⟩ := hread
    exact hline.suffix_of_cons (hhex hd) (hline.suffix_of_cons (hhex hc)
      (hline.suffix_of_cons (hhex hb) (hline.suffix_of_cons (hhex ha) h)))
  · cases hread

theorem suffix_of_readCodePoint? (hline : IsObjectLine line) (h : line <:+ cs)
    (hread : readCodePoint? strict cs = some (c, rest)) : line <:+ rest := by
  rw [readCodePoint?] at hread
  simp only [Option.bind_eq_bind, Option.bind_eq_some_iff] at hread
  obtain ⟨⟨n, behind⟩, hhex, hread⟩ := hread
  have hbehind := suffix_of_readHex4? hline h hhex
  have hlone {o : Option (Char × List Char)}
      (ho : o = if strict then none else some (Char.ofNat 0xFFFD, behind))
      (hread : o = some (c, rest)) : line <:+ rest := by
    rw [ho] at hread
    split at hread
    · cases hread
    · obtain ⟨-, rfl⟩ := Prod.mk.inj (Option.some.inj hread)
      exact hbehind
  dsimp only at hread
  split at hread
  · exact hlone rfl hread
  · split at hread
    · -- The upper half of a pair; the lower half is read if it follows.
      split at hread
      · rename_i more
        split at hread
        · rename_i m last hhex
          split at hread
          · obtain ⟨-, rfl⟩ := Prod.mk.inj (Option.some.inj hread)
            exact suffix_of_readHex4? hline (hline.suffix_of_cons (by decide)
              (hline.suffix_of_cons (by decide) hbehind)) hhex
          · exact hlone rfl hread
        · exact hlone rfl hread
      · exact hlone rfl hread
    · obtain ⟨-, rfl⟩ := Prod.mk.inj (Option.some.inj hread)
      exact hbehind

theorem remains_of_readQuoted? (hline : IsObjectLine line) {fuel : Nat} {acc s : List Char}
    (h : line <:+ cs) (hread : readQuoted? strict fuel acc cs = some (s, rest)) :
    Remains line rest := by
  induction fuel generalizing acc cs with
  | zero => cases hread
  | succ fuel ih =>
    rw [readQuoted?.eq_def] at hread
    cases cs with
    | nil => cases hread
    | cons c cs =>
      dsimp only at hread
      by_cases hquote : c = '"'
      · rw [if_pos hquote] at hread
        cases hread
        exact .inl (hline.suffix_of_cons (by rw [hquote]; decide) h)
      · rw [if_neg hquote] at hread
        by_cases hslash : c = '\\'
        · rw [if_pos hslash] at hread
          have hescape := hline.suffix_of_cons (by rw [hslash]; decide) h
          split at hread
          · rename_i behind
            split at hread
            · rename_i c' more hpoint
              exact ih (suffix_of_readCodePoint? hline
                (hline.suffix_of_cons (by decide) hescape) hpoint) hread
            · cases hread
          · rename_i e behind _
            split at hread
            · rename_i c' hescaped
              refine ih (hline.suffix_of_cons ?_ hescape) hread
              rintro rfl
              cases hescaped
            · cases hread
          · cases hread
        · rw [if_neg hslash] at hread
          split at hread
          · cases hread
          · -- The only place where the text can go on into the line.
            rcases List.suffix_cons_iff.1 h with heq | h
            · obtain ⟨broken, hopens⟩ := hline.opens
              rw [hopens] at heq
              obtain ⟨-, rfl⟩ := List.cons.inj heq
              cases fuel with
              | zero => cases hread
              | succ fuel =>
                rw [readQuoted?.eq_def] at hread
                dsimp only at hread
                rw [if_pos rfl] at hread
                cases hread
                exact .inr (.inl ⟨broken, rfl⟩)
            · exact ih h hread

theorem remains_of_readText? (hline : IsObjectLine line) {s : List Char} (h : line <:+ cs)
    (hread : readText? strict cs = some (s, rest)) : Remains line rest := by
  rw [readText?.eq_def] at hread
  split at hread
  · exact remains_of_readQuoted? hline (hline.suffix_of_cons (by decide) h) hread
  · cases hread

/-! ## Numbers -/

theorem suffix_of_readDigits? (hline : IsObjectLine line) {digits : List Char} (h : line <:+ cs)
    (hread : readDigits? cs = some (digits, rest)) : line <:+ rest := by
  rw [readDigits?] at hread
  split at hread
  · cases hread
  · cases hread
    exact hline.suffix_dropWhile rfl h

theorem suffix_of_readWhole? (hline : IsObjectLine line) {digits : List Char} (h : line <:+ cs)
    (hread : readWhole? cs = some (digits, rest)) : line <:+ rest := by
  rw [readWhole?.eq_def] at hread
  split at hread
  · cases hread
    exact hline.suffix_of_cons (by decide) h
  · exact suffix_of_readDigits? hline h hread

theorem suffix_of_map_readDigits? (hline : IsObjectLine line) {digits : List Char}
    {f : List Char × List Char → List Char × List Char} (h : line <:+ cs)
    (hread : (readDigits? cs).map f = some (digits, rest)) (hf : ∀ p, (f p).2 = p.2) :
    line <:+ rest := by
  obtain ⟨⟨digits', rest'⟩, hdigits, heq⟩ := Option.map_eq_some_iff.1 hread
  have hrest : rest' = rest := (hf _).symm.trans (congrArg Prod.snd heq)
  exact hrest ▸ suffix_of_readDigits? hline h hdigits

theorem suffix_of_readFraction? (hline : IsObjectLine line) {digits : List Char}
    (h : line <:+ cs) (hread : readFraction? cs = some (digits, rest)) : line <:+ rest := by
  rw [readFraction?.eq_def] at hread
  split at hread
  · exact suffix_of_map_readDigits? hline (hline.suffix_of_cons (by decide) h) hread
      fun _ ↦ rfl
  · cases hread
    exact h

theorem suffix_of_readScale? (hline : IsObjectLine line) {digits : List Char} (h : line <:+ cs)
    (hread : readScale? cs = some (digits, rest)) : line <:+ rest := by
  rw [readScale?.eq_def] at hread
  split at hread
  · rename_i e behind
    split at hread
    · rename_i hscale
      have hletter : e ≠ '\x7b' := by
        rintro rfl
        cases hscale
      have hbehind := hline.suffix_of_cons hletter h
      split at hread
      · exact suffix_of_map_readDigits? hline (hline.suffix_of_cons (by decide) hbehind)
          hread fun _ ↦ rfl
      · exact suffix_of_map_readDigits? hline (hline.suffix_of_cons (by decide) hbehind)
          hread fun _ ↦ rfl
      · exact suffix_of_map_readDigits? hline hbehind hread fun _ ↦ rfl
    · cases hread
      exact h
  · cases hread
    exact h

theorem suffix_of_readNumber? (hline : IsObjectLine line) {literal : List Char} (h : line <:+ cs)
    (hread : readNumber? cs = some (literal, rest)) : line <:+ rest := by
  have hsigned {sign unsigned : List Char} (hunsigned : line <:+ unsigned)
      (hread : ((readWhole? unsigned).bind fun whole ↦ (readFraction? whole.2).bind fun fraction ↦
        (readScale? fraction.2).bind fun scale ↦
          some (sign ++ whole.1 ++ fraction.1 ++ scale.1, scale.2)) = some (literal, rest)) :
      line <:+ rest := by
    simp only [Option.bind_eq_some_iff, Option.some.injEq, Prod.mk.injEq] at hread
    obtain ⟨whole, hwhole, fraction, hfraction, scale, hscale, -, rfl⟩ := hread
    exact suffix_of_readScale? hline (suffix_of_readFraction? hline
      (suffix_of_readWhole? hline hunsigned hwhole) hfraction) hscale
  rw [readNumber?.eq_def] at hread
  split at hread
  rename_i sign unsigned heq
  split at heq
  · cases heq
    exact hsigned (hline.suffix_of_cons (by decide) h) hread
  · cases heq
    exact hsigned h hread

end Suffix

/-! ## Values -/

/-- What the three readers of values leave of a text that ends with the line, within some fuel. -/
structure LeavesLine (line : List Char) (strict : Bool) (fuel : Nat) : Prop where
  value : ∀ cs v rest, line <:+ cs → readValue? strict fuel cs = some (v, rest) →
    Remains line rest
  elements : ∀ acc cs vs rest, line <:+ cs → readElements? strict fuel acc cs = some (vs, rest) →
    line <:+ rest
  members : ∀ acc cs ms rest, line <:+ cs → readMembers? strict fuel acc cs = some (ms, rest) →
    line <:+ rest

section Values

variable {line : List Char} {strict : Bool} {fuel : Nat}

theorem remains_of_readValue? (hline : IsObjectLine line) (hless : LeavesLine line strict fuel)
    {cs rest : List Char} {v : Json} (h : line <:+ cs)
    (hread : readValue? strict (fuel + 1) cs = some (v, rest)) : Remains line rest := by
  have hskip := hline.suffix_skipSpace h
  rw [readValue?.eq_def] at hread
  dsimp only at hread
  split at hread
  · rename_i inside heq
    rw [heq] at hskip
    rcases List.suffix_cons_iff.1 hskip with hwhole | hinside
    · -- The value is the line itself.
      refine .inr (.inr (hline.whole strict (fuel + 1) v rest ?_))
      rw [hwhole, readValue?.eq_def]
      exact hread
    · have hnext := hline.suffix_skipSpace hinside
      split at hread
      · rename_i behind hempty
        cases hread
        rw [hempty] at hnext
        exact .inl (hline.suffix_of_cons (by decide) hnext)
      · obtain ⟨⟨ms, behind⟩, hmembers, hpair⟩ := Option.map_eq_some_iff.1 hread
        cases hpair
        exact .inl (hless.members _ _ _ _ hnext hmembers)
  · rename_i inside heq
    rw [heq] at hskip
    have hnext := hline.suffix_skipSpace (hline.suffix_of_cons (by decide) hskip)
    split at hread
    · rename_i behind hempty
      cases hread
      rw [hempty] at hnext
      exact .inl (hline.suffix_of_cons (by decide) hnext)
    · obtain ⟨⟨vs, behind⟩, helements, hpair⟩ := Option.map_eq_some_iff.1 hread
      cases hpair
      exact .inl (hless.elements _ _ _ _ hnext helements)
  · rename_i inside heq
    rw [heq] at hskip
    obtain ⟨⟨s, behind⟩, htext, hpair⟩ := Option.map_eq_some_iff.1 hread
    cases hpair
    exact remains_of_readText? hline hskip htext
  · rename_i behind heq
    rw [heq] at hskip
    cases hread
    exact .inl (hline.suffix_of_cons (by decide) (hline.suffix_of_cons (by decide)
      (hline.suffix_of_cons (by decide) (hline.suffix_of_cons (by decide) hskip))))
  · rename_i behind heq
    rw [heq] at hskip
    cases hread
    exact .inl (hline.suffix_of_cons (by decide) (hline.suffix_of_cons (by decide)
      (hline.suffix_of_cons (by decide) (hline.suffix_of_cons (by decide) hskip))))
  · rename_i behind heq
    rw [heq] at hskip
    cases hread
    exact .inl (hline.suffix_of_cons (by decide) (hline.suffix_of_cons (by decide)
      (hline.suffix_of_cons (by decide) (hline.suffix_of_cons (by decide)
        (hline.suffix_of_cons (by decide) hskip)))))
  · obtain ⟨⟨literal, behind⟩, hnumber, hpair⟩ := Option.map_eq_some_iff.1 hread
    cases hpair
    exact .inl (suffix_of_readNumber? hline hskip hnumber)

theorem suffix_of_readElements? (hline : IsObjectLine line) (hless : LeavesLine line strict fuel)
    {acc vs : List Json} {cs rest : List Char} (h : line <:+ cs)
    (hread : readElements? strict (fuel + 1) acc cs = some (vs, rest)) : line <:+ rest := by
  rw [readElements?.eq_def] at hread
  dsimp only at hread
  split at hread
  · cases hread
  · rename_i v behind hvalue
    have hremains := hless.value _ _ _ h hvalue
    split at hread
    · rename_i more htoken
      exact hless.elements _ _ _ _ (hremains.suffix_of_token hline htoken (by decide) (by decide))
        hread
    · rename_i more htoken
      cases hread
      exact hremains.suffix_of_token hline htoken (by decide) (by decide)
    · cases hread

theorem suffix_of_readMembers? (hline : IsObjectLine line) (hless : LeavesLine line strict fuel)
    {acc ms : List (String × Json)} {cs rest : List Char} (h : line <:+ cs)
    (hread : readMembers? strict (fuel + 1) acc cs = some (ms, rest)) : line <:+ rest := by
  rw [readMembers?.eq_def] at hread
  dsimp only at hread
  split at hread
  · cases hread
  · rename_i key behind hkey
    have hremains := remains_of_readText? hline (hline.suffix_skipSpace h) hkey
    split at hread
    · rename_i more htoken
      have hmore := hremains.suffix_of_token hline htoken (by decide) (by decide)
      split at hread
      · cases hread
      · rename_i v behind hvalue
        have hremains := hless.value _ _ _ hmore hvalue
        split at hread
        · rename_i more htoken
          exact hless.members _ _ _ _
            (hremains.suffix_of_token hline htoken (by decide) (by decide)) hread
        · rename_i more htoken
          cases hread
          exact hremains.suffix_of_token hline htoken (by decide) (by decide)
        · cases hread
    · cases hread

/-- A value that begins before the line leaves the line, or breaks it at its first quote; arrays
and objects leave it. -/
theorem leavesLine (hline : IsObjectLine line) (strict : Bool) (fuel : Nat) :
    LeavesLine line strict fuel := by
  induction fuel with
  | zero =>
    exact ⟨fun _ _ _ _ ↦ nofun, fun _ _ _ _ _ ↦ nofun, fun _ _ _ _ _ ↦ nofun⟩
  | succ fuel ih =>
    exact ⟨fun _ _ _ h hread ↦ remains_of_readValue? hline ih h hread,
      fun _ _ _ _ h hread ↦ suffix_of_readElements? hline ih h hread,
      fun _ _ _ _ h hread ↦ suffix_of_readMembers? hline ih h hread⟩

end Values

end Telemetry.Json
