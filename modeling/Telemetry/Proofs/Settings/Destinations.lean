import Telemetry.Proofs.Definition.Labels
import Telemetry.Settings.Check

/-!
# The log files of different targets

The log of a target goes to the destination with the name of the target in the place of each
placeholder. Different names give different destinations wherever there is a placeholder
(`Text.replaceChars_injective`), and with several targets the check of the settings asks for one
(`Settings.destinationFor_ne`).

Names may hold anything, even the text of the placeholder: what is put in is not looked at again. So
a replacement is the same pieces of the destination around any name (`Text.exists_pieces`), and two
names that give one text have one length and stand at one position in it.
-/

namespace Telemetry

namespace Text

variable {pat : List Char}

/-- The pieces of a text between the occurrences of a pattern: whatever is put in the place of the
pattern stands between them. A text in which the pattern occurs has a piece behind it. -/
theorem exists_pieces (hpat : pat ≠ []) (cs : List Char) :
    ∃ first rest, (∀ new, replaceChars pat new cs = first ++ rest.flatMap (new ++ ·)) ∧
      (occurs pat cs = true → rest ≠ []) := by
  induction cs using replaceChars.induct pat with
  | case1 =>
    refine ⟨[], [], fun new ↦ by rw [replaceChars]; rfl, fun h ↦ ?_⟩
    exact absurd (List.isEmpty_iff.1 h) hpat
  | case2 c cs tail hfound hblank ih => exact absurd hblank hpat
  | case3 c cs tail hfound hblank ih =>
    obtain ⟨first, rest, hpieces, -⟩ := ih
    refine ⟨[], first :: rest, fun new ↦ ?_, fun _ ↦ List.cons_ne_nil _ _⟩
    rw [replaceChars, List.flatMap_cons, List.nil_append, List.append_assoc, ← hpieces]
    split
    · next tail' hfound' =>
      obtain rfl := Option.some.inj (hfound.symm.trans hfound')
      rw [dif_neg hpat]
    · next hnone =>
      rw [hfound] at hnone
      cases hnone
  | case4 c cs hnone ih =>
    obtain ⟨first, rest, hpieces, hrest⟩ := ih
    refine ⟨c :: first, rest, fun new ↦ ?_, fun h ↦ hrest ?_⟩
    · rw [replaceChars, List.cons_append, ← hpieces]
      split
      · next tail hfound =>
        rw [hnone] at hfound
        cases hfound
      · rfl
    · rwa [occurs, hnone, Option.isSome_none, Bool.false_or] at h

theorem length_flatMap_append (new : List Char) (pieces : List (List Char)) :
    (pieces.flatMap (new ++ ·)).length = pieces.length * new.length + pieces.flatten.length := by
  induction pieces with
  | nil => simp
  | cons piece pieces ih =>
    rw [List.flatMap_cons, List.length_append, List.length_append, ih, List.length_cons,
      List.flatten_cons, List.length_append, Nat.succ_mul]
    omega

/-- Where a pattern occurs, different texts in its place give different results. -/
theorem replaceChars_injective {cs : List Char} (hpat : pat ≠ []) (h : occurs pat cs = true) :
    Function.Injective fun new ↦ replaceChars pat new cs := by
  intro new new' heq
  obtain ⟨first, rest, hpieces, hrest⟩ := exists_pieces hpat cs
  obtain ⟨piece, pieces, rfl⟩ := List.exists_cons_of_ne_nil (hrest h)
  simp only [hpieces] at heq
  have hsame := List.append_cancel_left heq
  -- There is at least one place where the texts stand, so their lengths can be compared.
  have hlength : new.length = new'.length := by
    have hlengths := congrArg List.length hsame
    rw [length_flatMap_append, length_flatMap_append] at hlengths
    exact Nat.eq_of_mul_eq_mul_left (Nat.succ_pos pieces.length) (Nat.add_right_cancel hlengths)
  rw [List.flatMap_cons, List.flatMap_cons, List.append_assoc, List.append_assoc] at hsame
  exact List.append_inj_left hsame hlength

theorem replace_injective {s pat : String} (hpat : pat ≠ "") (h : contains s pat = true) :
    Function.Injective (replace s pat) := by
  intro new new' heq
  have hchars := congrArg String.toList heq
  rw [replace, replace, String.toList_ofList, String.toList_ofList] at hchars
  have hne : pat.toList ≠ [] := fun hnil ↦ hpat (String.toList_inj.1 hnil)
  exact String.toList_inj.1 (replaceChars_injective hne h hchars)

end Text

/-- Log tailing of several targets needs a placeholder. -/
theorem LogSettings.contains_of_check {s : LogSettings} {targets : Nat}
    (h : s.check targets = .ok ()) (henabled : s.enabled = true) (hseveral : 1 < targets) :
    Text.contains s.destination targetMark = true := by
  rw [check, henabled, if_neg (by decide)] at h
  split at h
  · cases h
  · split at h
    · cases h
    · next hmark => simpa [hseveral] using hmark

/-- Of two different targets, none is the only one. -/
theorem one_lt_length_of_ne {α β : Type} {entries : List (α × β)} {a b : α}
    (ha : a ∈ entries.map (·.1)) (hb : b ∈ entries.map (·.1)) (hne : a ≠ b) :
    1 < entries.length := by
  rw [← List.length_map (f := fun e : α × β ↦ e.1)]
  generalize entries.map (·.1) = keys at ha hb
  match keys, ha, hb with
  | [key], ha, hb =>
    exact absurd ((List.mem_singleton.1 ha).trans (List.mem_singleton.1 hb).symm) hne
  | _ :: _ :: _, _, _ => exact Nat.succ_lt_succ (Nat.succ_pos _)

/-- Settings pass their check only if log tailing does. -/
theorem Settings.check_log {s : Settings} (h : s.check = .ok ()) :
    s.log.check s.targets.length = .ok () := by
  rw [check] at h
  split at h
  · cases h
  · obtain ⟨-, -, h⟩ := bind_eq_ok_iff.1 h
    obtain ⟨-, -, h⟩ := bind_eq_ok_iff.1 h
    split at h
    · cases h
    · exact h

/-- With settings that pass their check, the logs of two targets go to different destinations. -/
theorem Settings.destinationFor_ne {s : Settings} (hcheck : s.check = .ok ())
    (henabled : s.log.enabled = true) {name other : String}
    (hname : name ∈ s.targets.map (·.1)) (hother : other ∈ s.targets.map (·.1))
    (hne : name ≠ other) : s.log.destinationFor name ≠ s.log.destinationFor other := by
  have hmark := LogSettings.contains_of_check (Settings.check_log hcheck) henabled
    (one_lt_length_of_ne hname hother hne)
  exact fun heq ↦ hne (Text.replace_injective (by decide) hmark heq)

end Telemetry
