/-!
# Similar words

How alike two words are: the mean of three shares, that of the characters of either word that have
a counterpart in the other, and that of the counterparts that come in the same order in both. A
counterpart stands at nearly the same place. Likeness is a fraction of natural numbers, so that
comparing it needs no rounding.
-/

namespace Telemetry.Text

/-- A fraction from zero to one. -/
structure Likeness where
  numerator : Nat
  denominator : Nat
  deriving DecidableEq, Repr

namespace Likeness

/-- The first fraction is at least the second. -/
def atLeast (a b : Likeness) : Bool := a.numerator * b.denominator ≥ b.numerator * a.denominator

/-- Words that are at least so alike count as similar. -/
def similar : Likeness := ⟨7, 10⟩

/-- How far apart counterparts may stand in words of these lengths. -/
def reach (n m : Nat) : Nat := max n m / 2 - 1

/-- The state of a search for counterparts: the characters of the first word that have one, in
order, and the characters of the second word with a mark on those that are one. -/
abbrev Pairing := List Char × List (Char × Bool)

/-- Looks for the counterpart of a character at a place. -/
def pairOne (reach : Nat) (state : Pairing) (c : Char × Nat) : Pairing :=
  let fits (d : (Char × Bool) × Nat) : Bool :=
    d.1.1 == c.1 && !d.1.2 && c.2 ≤ d.2 + reach && d.2 ≤ c.2 + reach
  match state.2.zipIdx.find? fits with
  | some (_, place) => (state.1 ++ [c.1], state.2.set place (c.1, true))
  | none => state

/-- The characters of either word that have a counterpart in the other, in order. -/
def counterparts (a b : List Char) : List Char × List Char :=
  let (inFirst, marked) :=
    a.zipIdx.foldl (pairOne (reach a.length b.length)) ([], b.map fun c => (c, false))
  (inFirst, (marked.filter (·.2)).map (·.1))

/-- How alike two words are. -/
def ofWords (a b : List Char) : Likeness :=
  let (inFirst, inSecond) := counterparts a b
  let n := inFirst.length
  if n = 0 then ⟨0, 1⟩
  else
    let swapped := ((inFirst.zip inSecond).filter fun p => p.1 ≠ p.2).length / 2
    ⟨n * n * b.length + n * n * a.length + (n - swapped) * a.length * b.length,
      3 * a.length * b.length * n⟩

/-- Puts a word with its likeness in front of the first one that is not more like. -/
def place (w : Likeness × String) : List (Likeness × String) → List (Likeness × String)
  | [] => [w]
  | v :: rest => if w.1.atLeast v.1 then w :: v :: rest else v :: place w rest

end Likeness

/-- The words that are similar to `word`, the most similar first. -/
def similarWords (word : String) (words : List String) : List String :=
  (((words.map fun w => (Likeness.ofWords word.toList w.toList, w)).filter fun w =>
    w.1.atLeast .similar).foldl (fun sorted w => Likeness.place w sorted) []).map (·.2)

end Telemetry.Text
