import Telemetry.Proofs.Number.Decimal
import Telemetry.Proofs.Url.Domain

/-!
# Reading back addresses of four bytes

An address is shown as its four bytes in base ten, so of the spellings that are read only the
plainest comes back: four parts, none of them with a leading zero that would make it a number in
another base (`ipv4Number?_decimalDigits`). What is read is an address of four bytes
(`ipv4_of_readIpv4`), and such an address is read back from what is shown of it
(`readWeb_ipv4Text`).
-/

namespace Telemetry.Host

/-! ## Decimal digits -/

theorem value?_ofNat {d : Nat} (h : d < 10) : Percent.value? (Char.ofNat (48 + d)) = some d := by
  have hall : ∀ d < 10, Percent.value? (Char.ofNat (48 + d)) = some d := by decide
  exact hall d h

/-- A number takes a digit of its base. -/
def takeDigit (base : Nat) (n : Option Nat) (c : Char) : Option Nat :=
  match n, Percent.value? c with
  | some n, some d => if d < base then some (n * base + d) else none
  | _, _ => none

theorem takeDigit_of_lt {base n d : Nat} {c : Char} (hc : Percent.value? c = some d)
    (hd : d < base) : takeDigit base (some n) c = some (n * base + d) := by
  simp [takeDigit, hc, hd]

theorem foldl_takeDigit_decimalDigits (n : Nat) :
    (Text.decimalDigits n).foldl (takeDigit 10) (some 0) = some n := by
  induction n using Nat.strongRecOn with
  | ind n ih =>
    rw [Text.decimalDigits]
    by_cases hn : n < 10
    · rw [if_pos hn, List.foldl_cons, List.foldl_nil, takeDigit_of_lt (value?_ofNat hn) hn,
        Nat.zero_mul, Nat.zero_add]
    · have hlast : n % 10 < 10 := Nat.mod_lt n (by decide)
      rw [if_neg hn, List.foldl_append, ih (n / 10) (by omega), List.foldl_cons, List.foldl_nil,
        takeDigit_of_lt (value?_ofNat hlast) hlast, Nat.div_add_mod']

/-- The digits of a number begin with a zero only where they are that zero alone. -/
theorem decimalDigits_head (n : Nat) :
    Text.decimalDigits n = ['0'] ∨ ∃ c cs, Text.decimalDigits n = c :: cs ∧ c ≠ '0' := by
  have hall : ∀ d < 10, d ≠ 0 → Char.ofNat (48 + d) ≠ '0' := by decide
  induction n using Nat.strongRecOn with
  | ind n ih =>
    rw [Text.decimalDigits]
    by_cases hn : n < 10
    · rw [if_pos hn]
      by_cases hzero : n = 0
      · exact .inl (by rw [hzero])
      · exact .inr ⟨_, _, rfl, hall n hn hzero⟩
    · rw [if_neg hn]
      right
      rcases ih (n / 10) (by omega) with hfront | ⟨c, cs, hfront, hc⟩
      · -- A number of two digits does not begin with a zero.
        have hvalue := Decimal.value_decimalDigits (n / 10)
        rw [hfront] at hvalue
        have : Decimal.value ['0'] = 0 := rfl
        omega
      · exact ⟨c, _, by rw [hfront]; rfl, hc⟩

theorem ipv4Number?_decimalDigits (n : Nat) : ipv4Number? (Text.decimalDigits n) = some n := by
  have hfold := foldl_takeDigit_decimalDigits n
  rcases decimalDigits_head n with h | ⟨c, cs, h, hc⟩
  · rw [h] at hfold ⊢
    rw [← hfold]
    rfl
  · rw [h] at hfold ⊢
    rw [← hfold]
    simp [ipv4Number?, hc]
    rfl

/-! ## What is shown -/

/-- The four bytes of an address. -/
def ipv4Bytes (address : Nat) : List Nat :=
  [3, 2, 1, 0].map fun i ↦ address / Nat.pow 256 i % 256

theorem ipv4Text_eq (address : Nat) :
    ipv4Text address = Text.joinWith ['.'] ((ipv4Bytes address).map Text.decimalDigits) := rfl

theorem ipv4Parts_ipv4Text (address : Nat) :
    ipv4Parts (ipv4Text address) = (ipv4Bytes address).map Text.decimalDigits := by
  have hstop : ∀ c : Char, c.isDigit = true → decide (c = '.') = false := by
    intro c hc
    refine decide_eq_false fun h ↦ ?_
    rw [h] at hc
    exact absurd hc (by decide)
  have hsplit : Text.splitOnChar (· = '.') (ipv4Text address) =
      (ipv4Bytes address).map Text.decimalDigits := by
    rw [ipv4Text_eq]
    refine Text.splitOnChar_joinWith (by decide) (List.cons_ne_nil _ _) fun piece hpiece d hd ↦ ?_
    obtain ⟨n, -, rfl⟩ := List.mem_map.1 hpiece
    exact hstop d (Text.isDigit_of_mem_decimalDigits hd)
  rw [ipv4Parts, hsplit]
  refine if_neg fun h ↦ ?_
  exact Text.decimalDigits_ne_nil _ (Option.some.inj h)

theorem endsInNumber_ipv4Text (address : Nat) : endsInNumber (ipv4Text address) = true := by
  rw [endsInNumber, ipv4Parts_ipv4Text]
  change (_ || (ipv4Number? (Text.decimalDigits (address / Nat.pow 256 0 % 256))).isSome) = true
  rw [ipv4Number?_decimalDigits, Option.isSome_some, Bool.or_true]

theorem mapM_ipv4Number? (ns : List Nat) :
    (ns.map Text.decimalDigits).mapM ipv4Number? = some ns := by
  induction ns with
  | nil => rfl
  | cons n ns ih =>
    rw [List.map_cons, List.mapM_cons, ipv4Number?_decimalDigits, ih]
    rfl

theorem readIpv4_of_bytes {cs : List Char} {a b c d : Nat}
    (hparts : ipv4Parts cs = [a, b, c, d].map Text.decimalDigits) (ha : a < 256) (hb : b < 256)
    (hc : c < 256) (hd : d < 256) :
    readIpv4 cs = .ok (.ipv4 (((a * 256 + b) * 256 + c) * 256 + d)) := by
  have hbounds : ¬ ((decide (4 > 4) || [a, b, c].any (· > 255)) || decide (d ≥ 256)) = true := by
    simp only [List.any_cons, List.any_nil, Bool.or_eq_true, decide_eq_true_eq, Bool.or_false]
    omega
  have hhead : 0 * 256 + a = a := by omega
  rw [readIpv4, hparts, mapM_ipv4Number?]
  refine (if_neg hbounds).trans ?_
  change Except.ok (Host.ipv4 ((((0 * 256 + a) * 256 + b) * 256 + c) * 256 + d)) = _
  rw [hhead]

/-- An address of four bytes is read back from what is shown of it. -/
theorem readIpv4_ipv4Text {address : Nat} (h : address < 4294967296) :
    readIpv4 (ipv4Text address) = .ok (.ipv4 address) := by
  have hvalue : ((address / 16777216 % 256 * 256 + address / 65536 % 256) * 256 +
      address / 256 % 256) * 256 + address / 1 % 256 = address := by omega
  have hlt (n : Nat) : n % 256 < 256 := Nat.mod_lt n (by decide)
  rw [readIpv4_of_bytes (ipv4Parts_ipv4Text address) (hlt _) (hlt _) (hlt _) (hlt _)]
  exact congrArg (fun n ↦ Except.ok (Host.ipv4 n)) hvalue

/-! ## What is read -/

theorem length_of_mapM {ps : List (List Char)} {ns : List Nat}
    (h : ps.mapM ipv4Number? = some ns) : ns.length = ps.length := by
  induction ps generalizing ns with
  | nil =>
    cases h
    rfl
  | cons p ps ih =>
    rw [List.mapM_cons] at h
    cases hp : ipv4Number? p with
    | none => simp [hp] at h
    | some n =>
      cases hps : ps.mapM ipv4Number? with
      | none => simp [hp, hps] at h
      | some ms =>
        simp only [hp, hps] at h
        cases h
        rw [List.length_cons, List.length_cons, ih hps]

theorem foldl_bytes_lt {ns : List Nat} (h : ∀ n ∈ ns, n ≤ 255) (acc : Nat) :
    ns.foldl (fun n part ↦ n * 256 + part) acc < (acc + 1) * 256 ^ ns.length := by
  induction ns generalizing acc with
  | nil => simp
  | cons n ns ih =>
    obtain ⟨hn, hns⟩ := List.forall_mem_cons.1 h
    have hstep : acc * 256 + n + 1 ≤ (acc + 1) * 256 := by omega
    calc (n :: ns).foldl (fun n part ↦ n * 256 + part) acc
        < (acc * 256 + n + 1) * 256 ^ ns.length := ih hns _
      _ ≤ (acc + 1) * 256 * 256 ^ ns.length := Nat.mul_le_mul_right _ hstep
      _ = (acc + 1) * 256 ^ (n :: ns).length := by
          rw [List.length_cons, Nat.pow_succ', Nat.mul_assoc]

/-- What is read is an address of four bytes. -/
theorem ipv4_of_readIpv4 {cs : List Char} {host : Host} (h : readIpv4 cs = .ok host) :
    ∃ address < 4294967296, host = .ipv4 address := by
  rw [readIpv4] at h
  dsimp only at h
  cases hnumbers : (ipv4Parts cs).mapM ipv4Number? with
  | none => simp [hnumbers] at h
  | some numbers =>
    simp only [hnumbers] at h
    split at h
    · cases h
    · next hbounds =>
      cases h
      simp only [Bool.or_eq_true, decide_eq_true_eq, List.any_eq_true, not_or, not_exists,
        not_and] at hbounds
      obtain ⟨⟨hlength, hfirsts⟩, hlast⟩ := hbounds
      have hcount : numbers.dropLast.length ≤ 3 := by
        rw [List.length_dropLast, length_of_mapM hnumbers]
        omega
      have hfold := foldl_bytes_lt (fun n hn ↦ Nat.not_lt.1 (hfirsts n hn)) 0
      generalize numbers.dropLast.foldl (fun n part ↦ n * 256 + part) 0 = front at hfold
      generalize numbers.dropLast.length = k at hcount hlast hfold
      generalize numbers.getLast?.getD 0 = last at hlast
      rw [Nat.zero_add, Nat.one_mul] at hfold
      rw [Nat.pow_eq] at hlast ⊢
      refine ⟨_, ?_, rfl⟩
      calc front * 256 ^ (4 - k) + last
          < front * 256 ^ (4 - k) + 256 ^ (4 - k) := Nat.add_lt_add_left (Nat.not_le.1 hlast) _
        _ = (front + 1) * 256 ^ (4 - k) := (Nat.succ_mul _ _).symm
        _ ≤ 256 ^ k * 256 ^ (4 - k) := Nat.mul_le_mul_right _ hfold
        _ = 4294967296 := by rw [← Nat.pow_add, Nat.add_sub_cancel' (by omega)]

/-! ## As the host of a web address -/

theorem isDomainChar_of_mem_ipv4Text {address : Nat} {c : Char} (h : c ∈ ipv4Text address) :
    IsDomainChar c := by
  have hdigit : ∀ c : Char, c.isDigit = true → IsDomainChar c := by
    intro c hc
    have hascii : c.toNat < 0x80 := by
      rw [Char.isDigit, Bool.and_eq_true, decide_eq_true_eq, decide_eq_true_eq] at hc
      exact Nat.lt_of_le_of_lt hc.2 (by decide)
    refine Text.forall_ascii (p := fun c ↦ c.isDigit = true → IsDomainChar c) ?_ hascii hc
    unfold IsDomainChar Text.IsSmall
    decide
  rw [ipv4Text_eq] at h
  rcases Text.mem_joinWith h with h | ⟨piece, hpiece, h⟩
  · rw [List.mem_singleton] at h
    rw [h]
    exact ⟨⟨by decide, by decide⟩, by decide⟩
  · obtain ⟨n, -, rfl⟩ := List.mem_map.1 hpiece
    exact hdigit c (Text.isDigit_of_mem_decimalDigits h)

theorem ipv4Text_ne_nil (address : Nat) : ipv4Text address ≠ [] := by
  intro h
  have hparts := ipv4Parts_ipv4Text address
  rw [h] at hparts
  simp [ipv4Parts, Text.splitOnChar, ipv4Bytes] at hparts

/-- An address is read back from what is shown of it. -/
theorem readWeb_ipv4Text {address : Nat} (h : address < 4294967296) :
    readWeb (ipv4Text address) = .ok (.ipv4 address) := by
  rw [readWeb_of_isDomainChar (fun c ↦ isDomainChar_of_mem_ipv4Text) (ipv4Text_ne_nil address),
    endsInNumber_ipv4Text, if_pos rfl, readIpv4_ipv4Text h]

end Telemetry.Host
