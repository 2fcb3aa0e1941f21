import Telemetry.Log.Record
import Telemetry.Proofs.Format.Json
import Telemetry.Proofs.Text.Utf8

/-!
# The line of a record

A record is read back from its line, whatever its four texts hold. The line is one line: it has no
control character in it, so no byte of it ends a line, and it neither begins nor ends with a blank.
-/

namespace Telemetry.LogRecord

/-! ## Reading one member -/

theorem skipSpace_cons_of_not_isSpace {c : Char} (h : Json.isSpace c = false) (cs : List Char) :
    Json.skipSpace (c :: cs) = c :: cs := by
  rw [Json.skipSpace, List.dropWhile_cons_of_neg (by simp [h])]

theorem skipSpace_quoted (cs rest : List Char) :
    Json.skipSpace (Json.quoted cs ++ rest) = Json.quoted cs ++ rest :=
  skipSpace_cons_of_not_isSpace (by decide) _

theorem readText?_quoted_toList (s : String) (rest : List Char) :
    Json.readText? true (Json.skipSpace (Json.quoted s.toList ++ rest)) =
      some (s.toList, rest) := by
  rw [skipSpace_quoted, Json.readText?_quoted]

theorem readField?_quoted (s : String) (rest : List Char) :
    readField? none (Json.quoted s.toList ++ rest) = some (some s, rest) := by
  rw [readField?, readText?_quoted_toList, Option.map_some]
  dsimp only
  rw [String.ofList_toList]

/-- One turn of the reader over a member that a comma follows. -/
theorem readMembers?_comma {fuel : Nat} {p p' : Partial} {key value : String} {rest : List Char}
    (h : readMember? fuel p key (Json.quoted value.toList ++ ',' :: rest) =
      some (p', ',' :: rest)) :
    readMembers? (fuel + 1) p (member key value ++ ',' :: rest) = readMembers? fuel p' rest := by
  rw [member, List.append_assoc, List.cons_append, readMembers?, readText?_quoted_toList]
  dsimp only
  rw [skipSpace_cons_of_not_isSpace (by decide)]
  simp only
  rw [String.ofList_toList, h]
  dsimp only
  rw [skipSpace_cons_of_not_isSpace (by decide)]
  simp only

/-- The last turn of the reader, over a member that the closing brace follows. -/
theorem readMembers?_brace {fuel : Nat} {p p' : Partial} {key value : String} {rest : List Char}
    (h : readMember? fuel p key (Json.quoted value.toList ++ '\x7d' :: rest) =
      some (p', '\x7d' :: rest)) :
    readMembers? (fuel + 1) p (member key value ++ '\x7d' :: rest) = some (p', rest) := by
  rw [member, List.append_assoc, List.cons_append, readMembers?, readText?_quoted_toList]
  dsimp only
  rw [skipSpace_cons_of_not_isSpace (by decide)]
  simp only
  rw [String.ofList_toList, h]
  dsimp only
  rw [skipSpace_cons_of_not_isSpace (by decide)]
  simp only

/-! ## Reading the line -/

theorem readMember?_timestamp (fuel : Nat) (p : Partial) (value : String) (rest : List Char)
    (h : p.timestamp = none) :
    readMember? fuel p "timestamp" (Json.quoted value.toList ++ rest) =
      some ({ p with timestamp := some value }, rest) := by
  rw [readMember?, if_pos rfl, h, readField?_quoted, Option.map_some]

theorem readMember?_moduleId (fuel : Nat) (p : Partial) (value : String) (rest : List Char)
    (h : p.moduleId = none) :
    readMember? fuel p "moduleId" (Json.quoted value.toList ++ rest) =
      some ({ p with moduleId := some value }, rest) := by
  rw [readMember?, if_neg (by decide), if_pos rfl, h, readField?_quoted, Option.map_some]

theorem readMember?_ecid (fuel : Nat) (p : Partial) (value : String) (rest : List Char)
    (h : p.ecid = none) :
    readMember? fuel p "ecid" (Json.quoted value.toList ++ rest) =
      some ({ p with ecid := some value }, rest) := by
  rw [readMember?, if_neg (by decide), if_neg (by decide), if_pos rfl, h, readField?_quoted,
    Option.map_some]

theorem readMember?_message (fuel : Nat) (p : Partial) (value : String) (rest : List Char)
    (h : p.message = none) :
    readMember? fuel p "message" (Json.quoted value.toList ++ rest) =
      some ({ p with message := some value }, rest) := by
  rw [readMember?, if_neg (by decide), if_neg (by decide), if_neg (by decide), if_pos rfl, h,
    readField?_quoted, Option.map_some]

/-- The members of a line are read in four turns. -/
theorem readMembers?_line (r : LogRecord) (fuel : Nat) (rest : List Char) :
    readMembers? (fuel + 4) {} (member "timestamp" r.timestamp ++ ',' ::
      (member "moduleId" r.moduleId ++ ',' :: (member "ecid" r.ecid ++ ',' ::
        (member "message" r.message ++ '\x7d' :: rest)))) =
      some (⟨some r.timestamp, some r.moduleId, some r.ecid, some r.message⟩, rest) := by
  rw [readMembers?_comma (readMember?_timestamp _ _ _ _ rfl),
    readMembers?_comma (readMember?_moduleId _ _ _ _ rfl),
    readMembers?_comma (readMember?_ecid _ _ _ _ rfl),
    readMembers?_brace (readMember?_message _ _ _ _ rfl)]

theorem line_eq (r : LogRecord) : r.line = '\x7b' :: (member "timestamp" r.timestamp ++ ',' ::
    (member "moduleId" r.moduleId ++ ',' :: (member "ecid" r.ecid ++ ',' ::
      (member "message" r.message ++ ['\x7d'])))) := by
  rw [line, List.cons_append, List.cons_append]
  simp only [List.append_assoc, List.cons_append]

/-- A record is read back from its line. -/
theorem ofLine?_line (r : LogRecord) : ofLine? r.line = some r := by
  have hfuel : 4 ≤ Json.enoughFuel (member "timestamp" r.timestamp ++ ',' ::
      (member "moduleId" r.moduleId ++ ',' :: (member "ecid" r.ecid ++ ',' ::
        (member "message" r.message ++ ['\x7d'])))) := by
    simp only [Json.enoughFuel, List.length_append, List.length_cons]
    omega
  obtain ⟨fuel, hfuel⟩ := Nat.exists_eq_add_of_le' hfuel
  rw [ofLine?, line_eq, readRecord?, skipSpace_cons_of_not_isSpace (by decide)]
  simp only
  rw [hfuel, readMembers?_line]
  rfl

/-! ## The line as one line -/

theorem not_control_of_mem_line {r : LogRecord} {c : Char} (h : c ∈ r.line) :
    ¬ c.toNat < 0x20 := by
  have hmember {key value : String} (h : c ∈ member key value) : ¬ c.toNat < 0x20 := by
    rw [member, List.mem_append, List.mem_cons] at h
    rcases h with h | rfl | h
    · exact Json.not_control_of_mem_quoted h
    · decide
    · exact Json.not_control_of_mem_quoted h
  rw [line_eq] at h
  simp only [List.mem_cons, List.mem_append, List.not_mem_nil, or_false] at h
  rcases h with rfl | h | rfl | h | rfl | h | rfl | h | rfl
  · decide
  · exact hmember h
  · decide
  · exact hmember h
  · decide
  · exact hmember h
  · decide
  · exact hmember h
  · decide

theorem trimChars_line (r : LogRecord) : Text.trimChars r.line = r.line := by
  have hlast : r.line.getLast? = some '\x7d' := List.getLast?_concat
  rw [line_eq] at hlast ⊢
  exact Text.trimChars_of_ends (by decide) hlast (by decide)

end Telemetry.LogRecord
