import Telemetry.Proofs.Number.Rounding

/-!
# How numbers compare

What is sorted as numbers need not be in the order of numbers: the total order tells the two zeros
apart, and it has places for what is not a number, at both of its ends. Numbers that are sorted are
strictly increasing exactly if all of them are numbers and no two are equal
(`areIncreasing_iff_of_sorted`).

What is not a number is read from its name, and from nothing else (`exists_isNaN_iff`).
-/

namespace Telemetry

namespace Binary64

/-! ## Less than -/

/-- The place of a number among all numbers. The two zeros share one. -/
def place (x : Binary64) : Int := if x.negative then -(x.rank : Int) else x.rank

/-- The first number is less than the second one. -/
structure IsBelow (x y : Binary64) : Prop where
  isNaN_left : x.isNaN = false
  isNaN_right : y.isNaN = false
  place_lt : x.place < y.place

instance (x y : Binary64) : Decidable (x.IsBelow y) :=
  decidable_of_iff (x.isNaN = false ∧ y.isNaN = false ∧ x.place < y.place)
    ⟨fun h ↦ ⟨h.1, h.2.1, h.2.2⟩, fun h ↦ ⟨h.isNaN_left, h.isNaN_right, h.place_lt⟩⟩

theorem totalLE_iff {x y : Binary64} : x.totalLE y = true ↔ x.totalKey ≤ y.totalKey :=
  decide_eq_true_iff

theorem totalLE_trans {x y z : Binary64} (h : x.totalLE y = true) (h' : y.totalLE z = true) :
    x.totalLE z = true := totalLE_iff.2 ((totalLE_iff.1 h).trans (totalLE_iff.1 h'))

theorem totalLE_total (x y : Binary64) : (x.totalLE y || y.totalLE x) = true := by
  rw [Bool.or_eq_true, totalLE_iff, totalLE_iff]
  exact le_total _ _

theorem place_le_of_totalLE {x y : Binary64} (h : x.totalLE y = true) : x.place ≤ y.place := by
  rw [totalLE_iff, totalKey, totalKey] at h
  rw [place, place]
  cases hx : x.negative <;> cases hy : y.negative <;> rw [hx, hy] at h <;>
    simp only [Bool.false_eq_true, if_true, if_false] at h ⊢ <;> omega

/-- They are numbers, each less than those behind it. -/
structure AreIncreasing (numbers : List Binary64) : Prop where
  isNaN_eq : ∀ x ∈ numbers, x.isNaN = false
  pairwise : numbers.Pairwise IsBelow

instance (numbers : List Binary64) : Decidable (AreIncreasing numbers) :=
  decidable_of_iff ((∀ x ∈ numbers, x.isNaN = false) ∧ numbers.Pairwise IsBelow)
    ⟨fun h ↦ ⟨h.1, h.2⟩, fun h ↦ ⟨h.isNaN_eq, h.pairwise⟩⟩

theorem AreIncreasing.sublist {numbers some : List Binary64} (h : AreIncreasing numbers)
    (hsublist : some.Sublist numbers) : AreIncreasing some :=
  ⟨fun x hx ↦ h.isNaN_eq x (hsublist.subset hx), h.pairwise.sublist hsublist⟩

theorem areIncreasing_iff_of_sorted {numbers sorted : List Binary64} (hperm : sorted.Perm numbers)
    (hsorted : sorted.Pairwise fun x y ↦ x.totalLE y = true) :
    AreIncreasing sorted ↔
      (∀ x ∈ numbers, x.isNaN = false) ∧ numbers.Pairwise fun x y ↦ x.place ≠ y.place := by
  have hsame : sorted.Pairwise (fun x y ↦ x.place ≠ y.place) ↔
      numbers.Pairwise fun x y ↦ x.place ≠ y.place := hperm.pairwise_iff Ne.symm
  rw [← hsame]
  constructor
  · intro h
    exact ⟨fun x hx ↦ h.isNaN_eq x (hperm.mem_iff.2 hx),
      h.pairwise.imp fun hbelow ↦ hbelow.place_lt.ne⟩
  · rintro ⟨hnumbers, hdifferent⟩
    have hisNaN : ∀ x ∈ sorted, x.isNaN = false := fun x hx ↦ hnumbers x (hperm.mem_iff.1 hx)
    refine ⟨hisNaN, (hsorted.and hdifferent).imp_of_mem fun hx hy h ↦ ?_⟩
    exact ⟨hisNaN _ hx, hisNaN _ hy, lt_of_le_of_ne (place_le_of_totalLE h.1) h.2⟩

end Binary64

/-! ## What is not a number -/

theorem Binary64.isNaN_ofRatio (negative : Bool) (num den : Nat) :
    (ofRatio negative num den).isNaN = false := by
  rw [ofRatio]
  split
  · rfl
  · exact decide_eq_false (Nat.not_lt.2 (Nat.min_le_right _ _))

namespace Decimal

theorem isNaN_round (negative : Bool) (d : Numeral) : (d.round negative).isNaN = false := by
  have hinfinity : (Binary64.infinity negative).isNaN = false := decide_eq_false (Nat.lt_irrefl _)
  unfold Numeral.round
  dsimp only
  split
  · rfl
  · split
    · exact hinfinity
    · split
      · rfl
      · split
        · exact Binary64.isNaN_ofRatio _ _ _
        · exact Binary64.isNaN_ofRatio _ _ _

/-- The name of what is not a number, in any letter case, behind a sign or without one. -/
def SpellsNaN (cs : List Char) : Prop :=
  ∃ name, name.map Char.toLower = ['n', 'a', 'n'] ∧
    (cs = name ∨ cs = '+' :: name ∨ cs = '-' :: name)

theorem readMagnitude?_isNaN_iff (negative : Bool) (cs : List Char) :
    (∃ x, readMagnitude? negative cs = some x ∧ x.isNaN = true) ↔
      cs.map Char.toLower = ['n', 'a', 'n'] := by
  have hnan : String.ofList (cs.map Char.toLower) = "nan" ↔
      cs.map Char.toLower = ['n', 'a', 'n'] := by
    rw [← String.toList_inj, String.toList_ofList]
    rfl
  rw [← hnan, readMagnitude?]
  split
  · next hname =>
    rw [Bool.or_eq_true, decide_eq_true_eq, decide_eq_true_eq] at hname
    refine iff_of_false ?_ ?_
    · rintro ⟨x, hx, hisNaN⟩
      rw [← Option.some.inj hx, Binary64.isNaN, decide_eq_true_eq] at hisNaN
      exact Nat.lt_irrefl _ hisNaN
    · rcases hname with hname | hname
      · rw [hname]
        decide
      · rw [hname]
        decide
  · split
    · next hname =>
      exact iff_of_true ⟨_, rfl, decide_eq_true (Nat.lt_add_of_pos_right (two_pow_pos 51))⟩ hname
    · next hname =>
      refine iff_of_false ?_ hname
      rintro ⟨x, hx, hisNaN⟩
      obtain ⟨d, -, rfl⟩ := Option.map_eq_some_iff.1 hx
      rw [isNaN_round] at hisNaN
      cases hisNaN

theorem exists_isNaN_iff (cs : List Char) :
    (∃ x, readChars? cs = some x ∧ x.isNaN = true) ↔ SpellsNaN cs := by
  have hsign {sign : Char} {rest : List Char} (hlower : sign.toLower ≠ 'n') :
      ¬ (sign :: rest).map Char.toLower = ['n', 'a', 'n'] := fun h ↦ hlower (List.cons.inj h).1
  rw [readChars?.eq_def, SpellsNaN]
  split
  · next rest =>
    rw [readMagnitude?_isNaN_iff]
    refine ⟨fun h ↦ ⟨rest, h, .inr (.inl rfl)⟩, ?_⟩
    rintro ⟨name, hname, rfl | heq | heq⟩
    · exact absurd hname (hsign (by decide))
    · rwa [(List.cons.inj heq).2]
    · exact absurd (List.cons.inj heq).1 (by decide)
  · next rest =>
    rw [readMagnitude?_isNaN_iff]
    refine ⟨fun h ↦ ⟨rest, h, .inr (.inr rfl)⟩, ?_⟩
    rintro ⟨name, hname, rfl | heq | heq⟩
    · exact absurd hname (hsign (by decide))
    · exact absurd (List.cons.inj heq).1 (by decide)
    · rwa [(List.cons.inj heq).2]
  · next hplus hminus =>
    rw [readMagnitude?_isNaN_iff]
    refine ⟨fun h ↦ ⟨cs, h, .inl rfl⟩, ?_⟩
    rintro ⟨name, hname, rfl | rfl | rfl⟩
    · exact hname
    · exact absurd rfl (hplus name)
    · exact absurd rfl (hminus name)

end Decimal

end Telemetry
