/-!
# Finding one text in another

Containment, replacement and splitting on lists of characters, with the wrappers on `String` that
the rest of the library uses.
-/

namespace Telemetry.Text

/-- The rest of `cs` after `pat`, when `cs` begins with `pat`. -/
def after? : List Char → List Char → Option (List Char)
  | [], cs => some cs
  | _ :: _, [] => none
  | p :: ps, c :: cs => if p = c then after? ps cs else none

theorem append_of_after? {pat cs rest : List Char} (h : after? pat cs = some rest) :
    cs = pat ++ rest := by
  induction pat generalizing cs with
  | nil => simp_all [after?]
  | cons p ps ih =>
    cases cs with
    | nil => simp [after?] at h
    | cons c cs =>
      by_cases hp : p = c
      · simp only [after?, hp, if_true] at h
        simp [hp, ih h]
      · simp [after?, hp] at h

/-- `pat` occurs somewhere in the text. -/
def occurs (pat : List Char) : List Char → Bool
  | [] => pat.isEmpty
  | c :: cs => (after? pat (c :: cs)).isSome || occurs pat cs

/-- `pat` occurs somewhere in `s`; the empty text occurs everywhere. -/
def contains (s pat : String) : Bool := occurs pat.toList s.toList

/-- Puts `new` in the place of every occurrence of `pat`, from the left and without overlap. An
empty `pat` replaces nothing. -/
def replaceChars (pat new : List Char) (cs : List Char) : List Char :=
  match cs with
  | [] => []
  | c :: rest =>
    match _found : after? pat (c :: rest) with
    | some tail =>
      if _blank : pat = [] then c :: replaceChars pat new rest else new ++ replaceChars pat new tail
    | none => c :: replaceChars pat new rest
termination_by cs.length
decreasing_by
  · simp
  · have := congrArg List.length (append_of_after? _found)
    simp only [List.length_cons, List.length_append] at this ⊢
    have : pat.length ≠ 0 := by simp [_blank]
    omega
  · simp

/-- Puts `new` in the place of every occurrence of `pat`, from the left and without overlap. -/
def replace (s pat new : String) : String :=
  String.ofList (replaceChars pat.toList new.toList s.toList)

/-- The pieces between the characters with the property `p`; there is always one piece more than
there are such characters. -/
def splitOnChar (p : Char → Bool) : List Char → List (List Char)
  | [] => [[]]
  | c :: cs =>
    if p c then [] :: splitOnChar p cs
    else match splitOnChar p cs with
      | [] => [[c]]
      | piece :: more => (c :: piece) :: more

/-- The texts one after another with `sep` between neighbours. -/
def joinWith (sep : List Char) : List (List Char) → List Char
  | [] => []
  | [t] => t
  | t :: ts => t ++ sep ++ joinWith sep ts

/-- The texts one after another with `sep` between neighbours. -/
def join (sep : String) (texts : List String) : String :=
  String.ofList (joinWith sep.toList (texts.map String.toList))

end Telemetry.Text
