import Telemetry.Proofs.Definition.Store

/-!
# Where a problem comes from

The problems of a loaded set are plain texts: one for each source that could not be read, one for
each that is no definition file, and one for each definition that is refused. Paths, contexts and
column names are arbitrary, so nothing at the beginning of a text tells these apart. Its end does:

```text
file         …(os error 2)    …NUL byte    …UTF-8
content      …parse error     …index 7   …⏎
definition   …request?   …metricsdesc   …'   …at 7   …variations)   and so on
```

The details of a fault in TOML end a line, so that it does not matter what they are.
`ProblemOrigin.ofProblem` reads the origin off the end of a text, and the theorems say that it is
right about every problem that a load can leave behind.
-/

namespace Telemetry

/-- What a problem is about. -/
inductive ProblemOrigin where
  /-- A source that could not be read. -/
  | file
  /-- A source that is no definition file. -/
  | content
  /-- A definition that was refused. -/
  | definition
  deriving DecidableEq, Repr

namespace ProblemOrigin

/-- The origin by the end of a text in reverse, without the number that it may end in. -/
def ofEnd (numbered : Bool) : List Char → ProblemOrigin
  | 'e' :: _ | '-' :: _ => .file
  | 'r' :: _ | '\n' :: _ => .content
  | ')' :: c :: _ => if c.isDigit then .file else .definition
  | ' ' :: 'x' :: _ => if numbered then .content else .definition
  | _ => .definition

/-- The origin of a problem. -/
def ofProblem (problem : String) : ProblemOrigin :=
  let reversed := problem.toList.reverse
  ofEnd (reversed.head?.any Char.isDigit) (reversed.dropWhile Char.isDigit)

/-- The origin that the last two characters of a literal tell, where the last one is no digit. -/
def ofLiteral? (numbered : Bool) (cs : List Char) : Option ProblemOrigin :=
  match cs.reverse with
  | c :: d :: _ => if c.isDigit then none else some (ofEnd numbered [c, d])
  | _ => none

theorem ofEnd_append {numbered : Bool} {c d : Char} {cs rest : List Char} :
    ofEnd numbered (c :: d :: cs ++ rest) = ofEnd numbered [c, d] := by
  unfold ofEnd
  split <;> simp_all

theorem exists_of_ofLiteral? {numbered : Bool} {cs : List Char} {o : ProblemOrigin}
    (h : ofLiteral? numbered cs = some o) :
    ∃ c d front, cs.reverse = c :: d :: front ∧ c.isDigit = false ∧ ofEnd numbered [c, d] = o := by
  rw [ofLiteral?] at h
  split at h
  case h_1 c d front hcs =>
    split at h
    · cases h
    next hc => exact ⟨c, d, front, hcs, Bool.eq_false_iff.mpr hc, Option.some.inj h⟩
  case h_2 => cases h

/-- Only the literal that a message ends in matters, whatever stands before it. -/
theorem ofProblem_append {text : String} {cs : List Char} {o : ProblemOrigin}
    (h : ofLiteral? false cs = some o) : ofProblem (text ++ String.ofList cs) = o := by
  obtain ⟨c, d, front, hcs, hc, ho⟩ := exists_of_ofLiteral? h
  rw [ofProblem, String.toList_append, String.toList_ofList, List.reverse_append, hcs,
    List.cons_append, List.head?_cons, Option.any_some, hc,
    List.dropWhile_cons_of_neg (Bool.eq_false_iff.mp hc), ← List.cons_append, ofEnd_append, ho]

/-- Where a message ends in a number, the literal before the number matters. -/
theorem ofProblem_append_ofNat {text : String} {cs : List Char} {n : Nat} {o : ProblemOrigin}
    (h : ofLiteral? true cs = some o) :
    ofProblem (text ++ (String.ofList cs ++ Text.ofNat n)) = o := by
  obtain ⟨c, d, front, hcs, hc, ho⟩ := exists_of_ofLiteral? h
  have hdigits : ∀ c ∈ (Text.decimalDigits n).reverse, c.isDigit = true := fun c hc ↦
    Text.isDigit_of_mem_decimalDigits (List.mem_reverse.mp hc)
  obtain ⟨digit, digits, hcons⟩ := List.exists_cons_of_ne_nil
    (List.reverse_ne_nil_iff.mpr (Text.decimalDigits_ne_nil n))
  rw [ofProblem, ← String.append_assoc, String.toList_append, List.reverse_append,
    Text.toList_ofNat, List.dropWhile_append_of_pos hdigits]
  rw [hcons] at hdigits ⊢
  rw [List.cons_append, List.head?_cons, Option.any_some, hdigits digit List.mem_cons_self,
    String.toList_append, String.toList_ofList, List.reverse_append, hcs, List.cons_append,
    List.dropWhile_cons_of_neg (Bool.eq_false_iff.mp hc), ← List.cons_append, ofEnd_append, ho]

/-- One character at the end is enough where it tells the origin alone. -/
theorem ofProblem_append_singleton (text : String) {c : Char} (hc : c.isDigit = false) :
    ofProblem (text ++ String.ofList [c]) = ofEnd false (c :: text.toList.reverse) := by
  rw [ofProblem, String.toList_append, String.toList_ofList, List.reverse_append,
    List.reverse_singleton, List.singleton_append, List.head?_cons, Option.any_some, hc,
    List.dropWhile_cons_of_neg (Bool.eq_false_iff.1 hc)]

/-! ## The three origins -/

theorem ofProblem_file (path : String) (e : FileError) :
    ofProblem (path ++ ": " ++ e.message) = .file := by
  cases e with
  | notText =>
    rw [ofProblem, FileError.message, String.toList_append, List.reverse_append,
      show "stream did not contain valid UTF-8".toList = _ from String.toList_ofList]
    rfl
  | _ => exact ofProblem_append (by rfl)

theorem ofProblem_fault (path : String) (fault : Utf8.Fault) :
    ofProblem (path ++ ": " ++ fault.message) = .content := by
  cases fault with
  | invalid count offset =>
    have hmessage : (Utf8.Fault.invalid count offset).message
        = "invalid utf-8 sequence of " ++ Text.ofNat count
          ++ (" bytes from index " ++ Text.ofNat offset) := String.append_assoc
    rw [hmessage, ← String.append_assoc]
    exact ofProblem_append_ofNat (by rfl)
  | incomplete offset => exact ofProblem_append_ofNat (by rfl)

/-- Whether details stand in the message or not, its end tells that the content is at fault. -/
theorem ofProblem_tomlFault [TomlFaults] (path text : String) :
    ofProblem (path ++ ": " ++ DefinitionStore.tomlFault text) = .content := by
  rw [DefinitionStore.tomlFault]
  rcases List.eq_nil_or_concat (TomlFaults.details text) with hnone | ⟨lines, line, hlines⟩
  · rw [hnone, List.foldl_nil]
    exact ofProblem_append (by rfl)
  · rw [hlines, List.concat_eq_append, List.foldl_append, List.foldl_cons, List.foldl_nil,
      ← String.append_assoc]
    exact ofProblem_append_singleton _ (by rfl)

theorem ofProblem_content [TomlFaults] (path : String) {content : List UInt8} {problem : String}
    (h : DefinitionStore.parse content = .error problem) :
    ofProblem (path ++ ": " ++ problem) = .content := by
  rw [DefinitionStore.parse] at h
  split at h
  · rw [Except.error.injEq] at h
    rw [← h, ofProblem_fault]
  · split at h
    · rw [Except.error.injEq] at h
      rw [← h, ofProblem_tomlFault]
    · cases h

theorem ofProblem_duration (text : String) (fault : Duration.Fault) :
    ofProblem (text ++ fault.message) = .definition := by
  cases fault with
  | expectedNumber offset => exact ofProblem_append_ofNat (by rfl)
  | invalidCharacter offset => exact ofProblem_append_ofNat (by rfl)
  | missingUnit value =>
    have hmessage : (Duration.Fault.missingUnit value).message
        = "time unit needed, for example " ++ Text.ofNat value ++ "sec or " ++ Text.ofNat value
          ++ "ms" := rfl
    rw [hmessage, ← String.append_assoc]
    exact ofProblem_append (by rfl)
  | unknownUnit unit =>
    have hmessage : (Duration.Fault.unknownUnit unit).message
        = "unknown time unit " ++ Text.quote unit ++ ", supported units: ns, us/µs, ms, sec, min, "
          ++ "hours, days, weeks, months, years (and few variations)" := rfl
    rw [hmessage, ← String.append_assoc]
    exact ofProblem_append (by rfl)
  | unrepresentable =>
    have hmessage : Duration.Fault.unrepresentable.message
        = "number is too large or cannot be represented without a lack of precision "
          ++ "(values below 1ns are not supported)" := rfl
    rw [hmessage, ← String.append_assoc]
    exact ofProblem_append (by rfl)
  | empty => exact ofProblem_append (by rfl)

theorem ofProblem_definition (e : DefinitionError) : ofProblem e.message = .definition := by
  cases e with
  | invalidDuration context field value fault => exact ofProblem_duration _ fault
  | unknownType context column kind => exact ofProblem_append_singleton _ (by rfl)
  | duplicateLabel context label target => exact ofProblem_append_singleton _ (by rfl)
  | _ => exact ofProblem_append (by rfl)

theorem ofProblem_of_refusal? {raw : RawDefinition} {problem : String}
    (h : DefinitionSet.refusal? raw = some problem) : ofProblem problem = .definition := by
  rw [DefinitionSet.refusal?] at h
  split at h
  · cases h
  next e _ =>
    rw [Option.some.injEq] at h
    rw [← h]
    exact ofProblem_definition e

end ProblemOrigin

end Telemetry
