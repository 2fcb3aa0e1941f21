import Mathlib.Algebra.Group.Nat.Defs
import Telemetry.Proofs.Text.Search
import Telemetry.Proofs.Url.Percent
import Telemetry.Url.Host

/-!
# Reading back addresses of eight pieces

An address is shown as its pieces in base sixteen with colons between them, and with two colons in
the place of its longest run of zeros. Reading puts the pieces before the two colons and those
behind them aside and fills up with zeros, so which run was left out does not matter: it is enough
that what was left out were zeros (`zeroRun_spec`).

While the pieces are read there are never more than eight of them, each below `65536` (`Fits`).
-/

namespace Telemetry.Host

/-! ## One piece -/

theorem value?_hexDigit {n : Nat} (h : n < 16) : Percent.value? (Text.hexDigit n) = some n := by
  have hall : ∀ n < 16, Percent.value? (Text.hexDigit n) = some n := by decide
  exact hall n h

theorem hexDigits_ne_nil (n : Nat) : Text.hexDigits n ≠ [] := by
  rw [Text.hexDigits]
  split <;> simp

theorem isSome_of_mem_hexDigits {n : Nat} {c : Char} (h : c ∈ Text.hexDigits n) :
    (Percent.value? c).isSome := by
  induction n using Nat.strongRecOn with
  | ind n ih =>
    rw [Text.hexDigits] at h
    by_cases hn : n < 16
    · rw [if_pos hn, List.mem_singleton] at h
      rw [h, value?_hexDigit hn]
      rfl
    · rw [if_neg hn, List.mem_append, List.mem_singleton] at h
      rcases h with h | h
      · exact ih (n / 16) (by omega) h
      · rw [h, value?_hexDigit (Nat.mod_lt n (by decide))]
        rfl

theorem length_hexDigits_le {n width : Nat} (h : n < 16 ^ (width + 1)) :
    (Text.hexDigits n).length ≤ width + 1 := by
  induction width generalizing n with
  | zero =>
    rw [Text.hexDigits, if_pos (by simpa using h)]
    exact Nat.le_refl 1
  | succ width ih =>
    rw [Text.hexDigits]
    by_cases hn : n < 16
    · rw [if_pos hn]
      exact Nat.le_add_left 1 _
    · rw [if_neg hn, List.length_append]
      refine Nat.add_le_add_right (ih ?_) 1
      rw [Nat.div_lt_iff_lt_mul (by decide), ← Nat.pow_succ]
      exact h

/-- A number in base sixteen takes a digit. -/
def takeHex (n : Nat) (c : Char) : Nat := n * 16 + (Percent.value? c).getD 0

theorem foldl_takeHex_hexDigits (n : Nat) : (Text.hexDigits n).foldl takeHex 0 = n := by
  induction n using Nat.strongRecOn with
  | ind n ih =>
    rw [Text.hexDigits]
    by_cases hn : n < 16
    · rw [if_pos hn, List.foldl_cons, List.foldl_nil, takeHex, value?_hexDigit hn]
      exact Nat.zero_add n
    · rw [if_neg hn, List.foldl_append, ih (n / 16) (by omega), List.foldl_cons, List.foldl_nil,
        takeHex, value?_hexDigit (Nat.mod_lt n (by decide))]
      exact Nat.div_add_mod' n 16

/-- What may follow a piece. -/
def FollowsPiece (rest : List Char) : Prop := rest = [] ∨ ∃ more, rest = ':' :: more

theorem FollowsPiece.takeWhile {rest : List Char} (h : FollowsPiece rest) (count : Nat) :
    (rest.take count).takeWhile (fun c ↦ (Percent.value? c).isSome) = [] := by
  rcases h with rfl | ⟨more, rfl⟩
  · rw [List.take_nil, List.takeWhile_nil]
  · cases count with
    | zero => rfl
    | succ count =>
      rw [List.take_succ_cons, List.takeWhile_cons_of_neg]
      decide

/-- A piece is read back from its digits. -/
theorem hexPiece?_append {n : Nat} (h : n < 65536) {rest : List Char} (hrest : FollowsPiece rest) :
    hexPiece? (Text.hexDigits n ++ rest) = some (n, rest) := by
  have hlength : (Text.hexDigits n).length ≤ 3 + 1 := length_hexDigits_le h
  have hdigits : ((Text.hexDigits n ++ rest).take 4).takeWhile
      (fun c ↦ (Percent.value? c).isSome) = Text.hexDigits n := by
    rw [List.take_append, List.take_of_length_le hlength,
      List.takeWhile_append_of_pos fun c hc ↦ isSome_of_mem_hexDigits hc, hrest.takeWhile,
      List.append_nil]
  have hne : (Text.hexDigits n).isEmpty = false := by simpa using hexDigits_ne_nil n
  rw [hexPiece?, hdigits, hne, List.drop_left]
  exact congrArg (fun n ↦ some (n, rest)) (foldl_takeHex_hexDigits n)

theorem getD_value?_lt (c : Char) : (Percent.value? c).getD 0 < 16 := by
  by_cases hc : c.toNat < 0x80
  · exact Text.forall_ascii (p := fun c ↦ (Percent.value? c).getD 0 < 16) (by decide) hc
  · have hnone : Percent.value? c = none := by
      rw [← Option.not_isSome_iff_eq_none]
      exact fun hsome ↦ hc (Percent.ascii_of_value? hsome)
    rw [hnone]
    decide

theorem foldl_takeHex_lt (cs : List Char) (n : Nat) :
    cs.foldl takeHex n < (n + 1) * 16 ^ cs.length := by
  induction cs generalizing n with
  | nil => simp
  | cons c cs ih =>
    have hdigit := getD_value?_lt c
    have hstep : takeHex n c + 1 ≤ (n + 1) * 16 := by
      unfold takeHex
      omega
    calc (c :: cs).foldl takeHex n
        < (takeHex n c + 1) * 16 ^ cs.length := ih _
      _ ≤ (n + 1) * 16 * 16 ^ cs.length := Nat.mul_le_mul_right _ hstep
      _ = (n + 1) * 16 ^ (c :: cs).length := by
          rw [List.length_cons, Nat.pow_succ', Nat.mul_assoc]

theorem lt_of_hexPiece? {cs rest : List Char} {n : Nat} (h : hexPiece? cs = some (n, rest)) :
    n < 65536 := by
  rw [hexPiece?] at h
  split at h
  · cases h
  · cases h
    generalize hdigits : (cs.take 4).takeWhile (fun c ↦ (Percent.value? c).isSome) = digits
    have hlength : digits.length ≤ 4 := by
      rw [← hdigits]
      exact Nat.le_trans (List.takeWhile_sublist _).length_le (List.length_take_le 4 cs)
    calc digits.foldl takeHex 0
        < (0 + 1) * 16 ^ digits.length := foldl_takeHex_lt digits 0
      _ ≤ (0 + 1) * 16 ^ 4 := Nat.mul_le_mul_left _ (Nat.pow_le_pow_right (by decide) hlength)

/-! ## Pieces that were read -/

/-- Puts pieces behind those that were read already. -/
def put (front : List Nat) (back : Option (List Nat)) (new : List Nat) :
    List Nat × Option (List Nat) :=
  match back with
  | none => (front ++ new, none)
  | some back => (front, some (back ++ new))

/-- The number of pieces that were read. -/
def held (p : List Nat × Option (List Nat)) : Nat := p.1.length + (p.2.getD []).length

@[simp]
theorem held_put (front : List Nat) (back : Option (List Nat)) (new : List Nat) :
    held (put front back new) = held (front, back) + new.length := by
  cases back with
  | none => simp [held, put]
  | some back => simp [held, put, Nat.add_assoc]

theorem put_put (front : List Nat) (back : Option (List Nat)) (first new : List Nat) :
    put (put front back first).1 (put front back first).2 new = put front back (first ++ new) := by
  cases back with
  | none => simp [put]
  | some back => simp [put]

/-- One step of reading: a text that does not begin with a colon begins with a piece. -/
theorem readPieces?_cons {front : List Nat} {back : Option (List Nat)} {c : Char}
    {cs : List Char} (hheld : held (front, back) ≠ 8) (hc : c ≠ ':') (fuel : Nat) :
    readPieces? (fuel + 1) front back (c :: cs) =
      match hexPiece? (c :: cs) with
      | none => none
      | some (piece, rest) =>
        match rest with
        | '.' :: _ => if held (front, back) > 6 then none
            else (ipv4Pieces? (c :: cs)).map (put front back)
        | ':' :: [] => none
        | ':' :: rest =>
          readPieces? fuel (put front back [piece]).1 (put front back [piece]).2 rest
        | [] => some (put front back [piece])
        | _ => none := by
  rw [readPieces?]
  · refine (if_neg hheld).trans ?_
    cases back <;> rfl
  · exact List.cons_ne_nil c cs
  · exact fun rest h ↦ hc (List.cons.inj h).1

/-- A second colon stands for zeros, once. -/
theorem readPieces?_mark (front : List Nat) (back : Option (List Nat)) (cs : List Char)
    (fuel : Nat) :
    readPieces? (fuel + 1) front back (':' :: cs) =
      if held (front, back) = 8 then none
      else if back.isNone then readPieces? fuel front (some []) cs else none := by
  rw [readPieces?]
  rfl

/-- Behind eight pieces nothing is read. -/
theorem readPieces?_full {front : List Nat} {back : Option (List Nat)}
    (h : held (front, back) = 8) (c : Char) (cs : List Char) (fuel : Nat) :
    readPieces? (fuel + 1) front back (c :: cs) = none := by
  by_cases hc : c = ':'
  · rw [hc, readPieces?_mark, if_pos h]
  · rw [readPieces?]
    · exact if_pos h
    · exact List.cons_ne_nil c cs
    · exact fun rest heq ↦ hc (List.cons.inj heq).1

/-! ## Reading what is shown -/

variable {front : List Nat} {back : Option (List Nat)} {n : Nat} {pieces : List Nat}

theorem piecesText_cons (n : Nat) (h : pieces ≠ []) :
    piecesText (n :: pieces) = Text.hexDigits n ++ ':' :: piecesText pieces := by
  rw [piecesText, List.map_cons, Text.joinWith_cons _ _ (by simpa using h), List.append_assoc]
  rfl

/-- The digits of a piece begin with no colon. -/
theorem hexDigits_eq_cons (n : Nat) : ∃ c cs, Text.hexDigits n = c :: cs ∧ c ≠ ':' := by
  obtain ⟨c, cs, hdigits⟩ := List.exists_cons_of_ne_nil (hexDigits_ne_nil n)
  refine ⟨c, cs, hdigits, ?_⟩
  rintro rfl
  have hsome := isSome_of_mem_hexDigits (n := n) (by rw [hdigits]; exact List.mem_cons_self)
  exact absurd hsome (by decide)

theorem piecesText_eq_cons (h : pieces ≠ []) : ∃ c cs, piecesText pieces = c :: cs ∧ c ≠ ':' := by
  obtain ⟨n, more, rfl⟩ := List.exists_cons_of_ne_nil h
  obtain ⟨c, cs, hdigits, hc⟩ := hexDigits_eq_cons n
  by_cases hmore : more = []
  · rw [hmore]
    exact ⟨c, cs, hdigits, hc⟩
  · rw [piecesText_cons n hmore, hdigits]
    exact ⟨c, _, rfl, hc⟩

theorem piecesText_ne_nil (h : pieces ≠ []) : piecesText pieces ≠ [] := by
  obtain ⟨c, cs, htext, -⟩ := piecesText_eq_cons h
  rw [htext]
  exact List.cons_ne_nil c cs

theorem readPieces?_last (h : n < 65536) (hheld : held (front, back) ≠ 8) (fuel : Nat) :
    readPieces? (fuel + 1) front back (Text.hexDigits n) = some (put front back [n]) := by
  obtain ⟨c, cs, hdigits, hc⟩ := hexDigits_eq_cons n
  have hpiece := hexPiece?_append h (.inl rfl)
  rw [List.append_nil, hdigits] at hpiece
  rw [hdigits, readPieces?_cons hheld hc, hpiece]

theorem readPieces?_colon (h : n < 65536) (hheld : held (front, back) ≠ 8) {rest : List Char}
    (hrest : rest ≠ []) (fuel : Nat) :
    readPieces? (fuel + 1) front back (Text.hexDigits n ++ ':' :: rest) =
      readPieces? fuel (put front back [n]).1 (put front back [n]).2 rest := by
  obtain ⟨c, cs, hdigits, hc⟩ := hexDigits_eq_cons n
  obtain ⟨d, ds, rfl⟩ := List.exists_cons_of_ne_nil hrest
  have hpiece := hexPiece?_append h (.inr ⟨d :: ds, rfl⟩)
  rw [hdigits, List.cons_append] at hpiece
  rw [hdigits, List.cons_append, readPieces?_cons hheld hc, hpiece]
  rfl

/-- Pieces are read one after another up to what stands behind them. -/
theorem readPieces?_append (hne : pieces ≠ []) (hlt : ∀ n ∈ pieces, n < 65536)
    (hheld : held (front, back) + pieces.length ≤ 8) {rest : List Char} (hrest : rest ≠ [])
    (fuel : Nat) :
    readPieces? (fuel + pieces.length) front back (piecesText pieces ++ ':' :: rest) =
      readPieces? fuel (put front back pieces).1 (put front back pieces).2 rest := by
  induction pieces generalizing front back with
  | nil => exact absurd rfl hne
  | cons n pieces ih =>
    obtain ⟨hn, hpieces⟩ := List.forall_mem_cons.1 hlt
    rw [List.length_cons] at hheld
    rw [List.length_cons, ← Nat.add_assoc]
    by_cases hlast : pieces = []
    · rw [hlast]
      exact readPieces?_colon hn (by omega) hrest fuel
    · rw [piecesText_cons n hlast, List.append_assoc, List.cons_append,
        readPieces?_colon hn (by omega) (by simp), ih hlast hpieces, put_put]
      · rfl
      · rw [held_put, List.length_singleton]
        omega

/-- Pieces are read one after another to the end. -/
theorem readPieces?_piecesText (hne : pieces ≠ []) (hlt : ∀ n ∈ pieces, n < 65536)
    (hheld : held (front, back) + pieces.length ≤ 8) (fuel : Nat) :
    readPieces? (fuel + pieces.length) front back (piecesText pieces) =
      some (put front back pieces) := by
  induction pieces generalizing front back with
  | nil => exact absurd rfl hne
  | cons n pieces ih =>
    obtain ⟨hn, hpieces⟩ := List.forall_mem_cons.1 hlt
    rw [List.length_cons] at hheld
    rw [List.length_cons, ← Nat.add_assoc]
    by_cases hlast : pieces = []
    · rw [hlast]
      exact readPieces?_last hn (by omega) fuel
    · rw [piecesText_cons n hlast, readPieces?_colon hn (by omega) (piecesText_ne_nil hlast),
        ih hlast hpieces, put_put]
      · rfl
      · rw [held_put, List.length_singleton]
        omega

/-- Behind the two colons there may be no pieces at all. -/
theorem readPieces?_behind (hlt : ∀ n ∈ pieces, n < 65536)
    (hheld : front.length + pieces.length ≤ 8) {fuel : Nat} (hfuel : pieces.length < fuel) :
    readPieces? fuel front (some []) (piecesText pieces) = some (front, some pieces) := by
  by_cases hne : pieces = []
  · obtain ⟨fuel, rfl⟩ := Nat.exists_eq_add_of_lt hfuel
    rw [hne]
    rfl
  · rw [← Nat.sub_add_cancel (Nat.le_of_lt hfuel)]
    have hroom : held (front, some []) + pieces.length ≤ 8 := hheld
    exact readPieces?_piecesText hne hlt hroom _

/-- Pieces on both sides of two colons. -/
theorem readPieces?_run {behind : List Nat} (hne : front ≠ []) (hfront : ∀ n ∈ front, n < 65536)
    (hbehind : ∀ n ∈ behind, n < 65536) (hlength : front.length + behind.length < 8) {fuel : Nat}
    (hfuel : front.length + behind.length + 1 < fuel) :
    readPieces? fuel [] none (piecesText front ++ ':' :: ':' :: piecesText behind) =
      some (front, some behind) := by
  obtain ⟨left, rfl⟩ : ∃ left, fuel = left + 1 + front.length := ⟨fuel - 1 - front.length, by omega⟩
  have hheld : held ([], none) + front.length ≤ 8 := by
    change 0 + 0 + front.length ≤ 8
    omega
  rw [readPieces?_append hne hfront hheld (by simp)]
  have hroom : ¬ held (front, none) = 8 := by
    change ¬ front.length + 0 = 8
    omega
  change readPieces? (left + 1) front none (':' :: piecesText behind) = _
  rw [readPieces?_mark, if_neg hroom, Option.isNone_none, if_pos rfl]
  exact readPieces?_behind hbehind (by omega) (by omega)

theorem length_le_length_piecesText (pieces : List Nat) :
    pieces.length ≤ (piecesText pieces).length := by
  induction pieces with
  | nil => exact Nat.zero_le _
  | cons n pieces ih =>
    have hpos : 0 < (Text.hexDigits n).length := List.length_pos_iff.2 (hexDigits_ne_nil n)
    by_cases hlast : pieces = []
    · rw [hlast]
      exact hpos
    · rw [piecesText_cons n hlast, List.length_cons, List.length_append, List.length_cons]
      omega

/-! ## The run of zeros that is left out -/

theorem replicate_zeros_append (pieces : List Nat) :
    List.replicate (zeros pieces) 0 ++ pieces.drop (zeros pieces) = pieces := by
  induction pieces with
  | nil => rfl
  | cons n pieces ih =>
    by_cases hn : n = 0
    · have hzeros : zeros (n :: pieces) = zeros pieces + 1 := by
        rw [zeros, List.takeWhile_cons_of_pos (by simpa using hn)]
        rfl
      rw [hzeros, List.replicate_succ, List.drop_succ_cons, List.cons_append, ih, hn]
    · have hzeros : zeros (n :: pieces) = 0 := by
        rw [zeros, List.takeWhile_cons_of_neg (by simpa using hn)]
        rfl
      rw [hzeros]
      rfl

/-- One step of the search for the longest run. -/
def longer (pieces : List Nat) (best : Option (Nat × Nat)) (i : Nat) : Option (Nat × Nat) :=
  let n := zeros (pieces.drop i)
  if n ≥ 2 && n > (best.map (·.2)).getD 0 then some (i, n) else best

/-- All zeros from a place on, at least two of them. -/
def IsRun (pieces : List Nat) (r : Nat × Nat) : Prop :=
  2 ≤ r.2 ∧ r.2 = zeros (pieces.drop r.1)

theorem isRun_longer {best : Option (Nat × Nat)} (hbest : ∀ r, best = some r → IsRun pieces r)
    {i : Nat} {r : Nat × Nat} (h : longer pieces best i = some r) : IsRun pieces r := by
  rw [longer] at h
  split at h
  · next hlonger =>
    cases h
    rw [Bool.and_eq_true, decide_eq_true_eq] at hlonger
    exact ⟨hlonger.1, rfl⟩
  · exact hbest r h

theorem isRun_foldl_longer (starts : List Nat) {best : Option (Nat × Nat)}
    (hbest : ∀ r, best = some r → IsRun pieces r) {r : Nat × Nat}
    (h : starts.foldl (longer pieces) best = some r) : IsRun pieces r := by
  induction starts generalizing best with
  | nil => exact hbest r h
  | cons i starts ih => exact ih (fun r' hr' ↦ isRun_longer hbest hr') h

/-- The run that is found is one of zeros, at least two of them. -/
theorem zeroRun_spec {start count : Nat} (h : zeroRun pieces = some (start, count)) :
    2 ≤ count ∧
      pieces.take start ++ List.replicate count 0 ++ pieces.drop (start + count) = pieces := by
  obtain ⟨htwo, hcount⟩ := isRun_foldl_longer _ (fun r hr ↦ absurd hr (by simp)) h
  refine ⟨htwo, ?_⟩
  have hrun := replicate_zeros_append (pieces.drop start)
  rw [← hcount, List.drop_drop] at hrun
  rw [List.append_assoc, hrun, List.take_append_drop]

/-! ## The whole address -/

/-- The address of the pieces that were read, with zeros in the place of the two colons. -/
def whole : List Nat × Option (List Nat) → Except UrlError Host
  | (front, none) => if front.length = 8 then .ok (.ipv6 front) else .error .badIpv6
  | (front, some back) =>
    .ok (.ipv6 (front ++ List.replicate (8 - front.length - back.length) 0 ++ back))

theorem readIpv6_cons {c : Char} {cs : List Char} (hc : c ≠ ':')
    {p : List Nat × Option (List Nat)}
    (h : readPieces? ((c :: cs).length + 1) [] none (c :: cs) = some p) :
    readIpv6 (c :: cs) = whole p := by
  rw [List.length_cons] at h
  obtain ⟨front, back⟩ := p
  cases back <;> simp [readIpv6, hc, h, whole]

theorem readIpv6_colons {rest : List Char} {p : List Nat × Option (List Nat)}
    (h : readPieces? ((':' :: ':' :: rest).length + 1) [] (some []) rest = some p) :
    readIpv6 (':' :: ':' :: rest) = whole p := by
  rw [List.length_cons, List.length_cons] at h
  obtain ⟨front, back⟩ := p
  cases back <;> simp [readIpv6, h, whole]

/-- What an address of eight pieces is. -/
def IsAddress (pieces : List Nat) : Prop := pieces.length = 8 ∧ ∀ n ∈ pieces, n < 65536

/-- An address with two colons is read back, wherever they stand. -/
theorem readIpv6_of_run {front behind : List Nat} {count : Nat}
    (hfront : ∀ n ∈ front, n < 65536) (hbehind : ∀ n ∈ behind, n < 65536)
    (htwo : 2 ≤ count) (hlength : front.length + count + behind.length = 8) :
    readIpv6 (piecesText front ++ [':', ':'] ++ piecesText behind) =
      .ok (.ipv6 (front ++ List.replicate count 0 ++ behind)) := by
  have hcount : 8 - front.length - behind.length = count := by omega
  have hwhole : whole (front, some behind) =
      .ok (.ipv6 (front ++ List.replicate count 0 ++ behind)) := by rw [whole, hcount]
  have hroom := length_le_length_piecesText behind
  rw [← hwhole]
  by_cases hne : front = []
  · -- The two colons stand at the head, where a single one would be refused.
    subst hne
    refine readIpv6_colons ?_
    refine readPieces?_behind hbehind ?_ ?_
    · rw [List.length_nil] at hlength ⊢
      omega
    · change behind.length < (piecesText behind).length + 1 + 1 + 1
      omega
  · have hroom' := length_le_length_piecesText front
    obtain ⟨c, cs, htext, hc⟩ := piecesText_eq_cons hne
    have hread := readPieces?_run hne hfront hbehind (by omega)
      (Nat.lt_succ_of_lt (by simp only [List.length_append, List.length_cons]; omega :
        front.length + behind.length + 1 <
          (piecesText front ++ ':' :: ':' :: piecesText behind).length))
    rw [List.append_assoc]
    rw [htext] at hread ⊢
    exact readIpv6_cons hc hread

/-- An address is read back from what is shown of it. -/
theorem readIpv6_ipv6Text (h : IsAddress pieces) :
    readIpv6 (ipv6Text pieces) = .ok (.ipv6 pieces) := by
  obtain ⟨hlength, hlt⟩ := h
  rw [ipv6Text]
  split
  · have hne : pieces ≠ [] := by
      rintro rfl
      cases hlength
    have hroom := length_le_length_piecesText pieces
    obtain ⟨fuel, hfuel⟩ := Nat.exists_eq_add_of_le' (Nat.le_succ_of_le hroom)
    have hroom' : held ([], none) + pieces.length ≤ 8 := by
      rw [hlength]
      exact Nat.le_refl 8
    have hread := readPieces?_piecesText hne hlt hroom' fuel
    have hwhole : whole (put [] none pieces) = .ok (.ipv6 pieces) := if_pos hlength
    obtain ⟨c, cs, htext, hc⟩ := piecesText_eq_cons hne
    rw [← hfuel] at hread
    rw [← hwhole]
    rw [htext] at hread ⊢
    exact readIpv6_cons hc hread
  · next start count hrun =>
    obtain ⟨htwo, hsplit⟩ := zeroRun_spec hrun
    have hcount := congrArg List.length hsplit
    simp only [List.length_append, List.length_replicate] at hcount
    rw [readIpv6_of_run (fun n hn ↦ hlt n (List.mem_of_mem_take hn))
      (fun n hn ↦ hlt n (List.mem_of_mem_drop hn)) htwo (by omega), hsplit]

/-! ## What is read -/

/-- Pieces that may have been read. -/
structure Fits (p : List Nat × Option (List Nat)) : Prop where
  held_le : held p ≤ 8
  lt : ∀ n ∈ p.1 ++ p.2.getD [], n < 65536

theorem Fits.put (h : Fits (front, back)) {new : List Nat}
    (hheld : held (front, back) + new.length ≤ 8) (hnew : ∀ n ∈ new, n < 65536) :
    Fits (put front back new) := by
  refine ⟨by rw [held_put]; exact hheld, fun n hn ↦ ?_⟩
  have hmem : n ∈ front ++ back.getD [] ∨ n ∈ new := by
    cases back with
    | none => simpa [Host.put] using hn
    | some back => simpa [Host.put, or_assoc] using hn
  rcases hmem with hmem | hmem
  · exact h.lt n hmem
  · exact hnew n hmem

theorem le_of_byteNumber? {cs : List Char} (h : byteNumber? cs = some n) : n ≤ 255 := by
  unfold byteNumber? at h
  dsimp only at h
  -- Whether a leading zero is there does not matter for the bound.
  split at h
  all_goals
    split at h
    · cases h
    · next hbad =>
      cases h
      simp only [Bool.or_eq_true, decide_eq_true_eq, not_or] at hbad
      exact Nat.not_lt.1 hbad.2

theorem lt_of_ipv4Pieces? {cs : List Char} (h : ipv4Pieces? cs = some pieces) :
    pieces.length = 2 ∧ ∀ n ∈ pieces, n < 65536 := by
  rw [ipv4Pieces?] at h
  split at h
  · next a b c d hparts =>
    cases h
    have hle : ∀ m ∈ [a, b, c, d], m ≤ 255 := by
      intro m hm
      have hmem : some m ∈ (Text.splitOnChar (· = '.') cs).map byteNumber? := by
        rw [hparts]
        exact List.mem_map_of_mem (f := some) hm
      obtain ⟨ds, -, hds⟩ := List.mem_map.1 hmem
      exact le_of_byteNumber? hds
    simp only [List.forall_mem_cons] at hle ⊢
    refine ⟨rfl, by omega, by omega, by simp⟩
  · cases h

/-- What one step reads fits where there is room for it. -/
theorem fits_of_readPieces? {fuel : Nat} {cs : List Char} {p : List Nat × Option (List Nat)}
    (h : readPieces? fuel front back cs = some p) (hfits : Fits (front, back)) : Fits p := by
  induction fuel generalizing front back cs with
  | zero => simp [readPieces?] at h
  | succ fuel ih =>
    have hheld := hfits.held_le
    cases cs with
    | nil =>
      cases h
      exact hfits
    | cons c cs =>
      by_cases hfull : held (front, back) = 8
      · rw [readPieces?_full hfull] at h
        cases h
      · by_cases hc : c = ':'
        · -- The mark changes where pieces are put, and not what is held.
          subst hc
          rw [readPieces?_mark, if_neg hfull] at h
          split at h
          · next hnone =>
            rw [Option.isNone_iff_eq_none] at hnone
            subst hnone
            exact ih h ⟨hheld, hfits.lt⟩
          · cases h
        · rw [readPieces?_cons hfull hc] at h
          split at h
          · cases h
          · next piece rest hpiece =>
            have hput : Fits (put front back [piece]) :=
              hfits.put (by rw [List.length_singleton]; omega)
                (by simpa using lt_of_hexPiece? hpiece)
            split at h
            · split at h
              · cases h
              · obtain ⟨new, hnew, rfl⟩ := Option.map_eq_some_iff.1 h
                obtain ⟨htwo, hlt⟩ := lt_of_ipv4Pieces? hnew
                exact hfits.put (by omega) hlt
            · cases h
            · exact ih h hput
            · cases h
              exact hput
            · cases h

/-- What is made of pieces that fit is an address of eight pieces. -/
theorem isAddress_of_whole {p : List Nat × Option (List Nat)} {host : Host} (h : whole p = .ok host)
    (hfits : Fits p) : ∃ pieces, host = .ipv6 pieces ∧ IsAddress pieces := by
  obtain ⟨front, back⟩ := p
  cases back with
  | none =>
    rw [whole] at h
    split at h
    · next hlength =>
      cases h
      exact ⟨front, rfl, hlength, by simpa using hfits.lt⟩
    · cases h
  | some behind =>
    cases h
    have hheld : front.length + behind.length ≤ 8 := hfits.held_le
    refine ⟨_, rfl, ?_, ?_⟩
    · simp only [List.length_append, List.length_replicate]
      omega
    · intro n hn
      rw [List.mem_append, List.mem_append] at hn
      rcases hn with (hn | hn) | hn
      · exact hfits.lt n (List.mem_append_left _ hn)
      · rw [List.eq_of_mem_replicate hn]
        decide
      · exact hfits.lt n (List.mem_append_right _ hn)

/-- Reading begins with nothing, or with the two colons behind nothing. -/
theorem exists_fits_of_readIpv6 {cs : List Char} {host : Host} (h : readIpv6 cs = .ok host) :
    ∃ p, Fits p ∧ whole p = .ok host := by
  have hnil (back : Option (List Nat)) (hback : back.getD [] = []) : Fits ([], back) :=
    ⟨by simp [held, hback], by simp [hback]⟩
  unfold readIpv6 at h
  dsimp only at h
  split at h
  · next front hstart =>
    refine ⟨(front, none), ?_, h⟩
    split at hstart
    · exact fits_of_readPieces? hstart (hnil _ rfl)
    · cases hstart
    · exact fits_of_readPieces? hstart (hnil _ rfl)
  · next front back hstart =>
    refine ⟨(front, some back), ?_, h⟩
    split at hstart
    · exact fits_of_readPieces? hstart (hnil _ rfl)
    · cases hstart
    · exact fits_of_readPieces? hstart (hnil _ rfl)
  · cases h

/-- What is read is an address of eight pieces. -/
theorem ipv6_of_readIpv6 {cs : List Char} {host : Host} (h : readIpv6 cs = .ok host) :
    ∃ pieces, host = .ipv6 pieces ∧ IsAddress pieces := by
  obtain ⟨p, hfits, hwhole⟩ := exists_fits_of_readIpv6 h
  exact isAddress_of_whole hwhole hfits

end Telemetry.Host
