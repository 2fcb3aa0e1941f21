import Telemetry.Toml.Scalar

/-!
# Reading TOML documents

A document is a list of lines: headers that open tables, keys with values, comments and blanks.
`Toml.readDocument?` gives the entries of the outermost table, or nothing when the text is no
document.
-/

namespace Telemetry.Toml

/-- The text behind a comment at its head, up to its line end. -/
def skipComment (cs : List Char) : List Char :=
  match cs with
  | '#' :: rest => rest.dropWhile isPlain
  | _ => cs

/-- The text behind blanks, comments and line ends. -/
def skipFiller : Nat → List Char → List Char
  | 0, cs => cs
  | fuel + 1, cs =>
    match newline? (skipComment (skipSpace cs)) with
    | some rest => skipFiller fuel rest
    | none => skipComment (skipSpace cs)

/-- A character of a key without quotes. -/
def isKeyChar (c : Char) : Bool := c.isAlphanum || c = '_' || c = '-'

/-- Reads one part of a key. -/
def simpleKey : Scan String := fun cs =>
  match cs with
  | '"' :: _ => (shortString cs).map fun (s, rest) => (String.ofList s, rest)
  | '\'' :: _ => (shortString cs).map fun (s, rest) => (String.ofList s, rest)
  | _ =>
    let name := cs.takeWhile isKeyChar
    if name.isEmpty then none else some (String.ofList name, cs.drop name.length)

/-- Reads a key: parts with points between them. `acc` holds the parts so far, the last one
first. -/
def dottedKey : Nat → List String → Scan (List String)
  | 0, _, _ => none
  | fuel + 1, acc, cs =>
    match simpleKey (skipSpace cs) with
    | none => none
    | some (part, rest) =>
      match skipSpace rest with
      | '.' :: rest => dottedKey fuel (part :: acc) rest
      | rest => some ((part :: acc).reverse, rest)

/-- How many parts a key may have, and how deep values may be nested. -/
def depthLimit : Nat := 79

/-- Reads a key with its parts; the last part is apart from the way to it. -/
def key : Scan (List String × String) := fun cs =>
  match dottedKey depthLimit [] cs with
  | some (parts, rest) => parts.getLast?.map fun last => ((parts.dropLast, last), rest)
  | none => none

mutual

/-- Reads a value. `fuel` bounds the number of steps and `depth` the nesting. -/
def value (depth : Nat) : Nat → Scan Toml
  | 0, _ => none
  | fuel + 1, cs =>
    match cs with
    | '[' :: rest =>
      match depth with
      | 0 => none
      | depth + 1 => (elements depth fuel [] rest).map fun (es, rest) => (.array false es, rest)
    | '\x7b' :: rest =>
      match depth with
      | 0 => none
      | depth + 1 =>
        match skipSpace rest with
        | '\x7d' :: rest => some (.table .braces [], rest)
        | rest => (members depth fuel [] rest).map fun (es, rest) => (.table .braces es, rest)
    | 't' :: 'r' :: 'u' :: 'e' :: rest => some (.boolean true, rest)
    | 'f' :: 'a' :: 'l' :: 's' :: 'e' :: rest => some (.boolean false, rest)
    | '"' :: _ => (anyString cs).map fun (s, rest) => (.string (String.ofList s), rest)
    | '\'' :: _ => (anyString cs).map fun (s, rest) => (.string (String.ofList s), rest)
    | cs => anyDatetime cs <|> number cs

/-- Reads the elements of an array, up to and with its closing bracket; a comma may follow the last
one. -/
def elements (depth : Nat) : Nat → List Toml → Scan (List Toml)
  | 0, _, _ => none
  | fuel + 1, acc, cs =>
    match skipFiller cs.length cs with
    | ']' :: rest => some (acc.reverse, rest)
    | cs =>
      match value depth fuel cs with
      | none => none
      | some (v, rest) =>
        match skipFiller rest.length rest with
        | ',' :: rest => elements depth fuel (v :: acc) rest
        | ']' :: rest => some ((v :: acc).reverse, rest)
        | _ => none

/-- Reads the members of a table between braces, up to and with its closing brace. -/
def members (depth : Nat) : Nat → Entries → Scan Entries
  | 0, _, _ => none
  | fuel + 1, entries, cs =>
    match key cs with
    | none => none
    | some ((path, last), rest) =>
      match rest with
      | '=' :: rest =>
        match value depth fuel (skipSpace rest) with
        | none => none
        | some (v, rest) =>
          match putDotted path last v .braces entries with
          | none => none
          | some entries =>
            match skipSpace rest with
            | ',' :: rest => members depth fuel entries rest
            | '\x7d' :: rest => some (entries, rest)
            | _ => none
      | _ => none

end

/-- The end of a line: blanks and a comment, then a line end or the end of the text. -/
def lineEnd? (cs : List Char) : Option (List Char) :=
  match skipComment (skipSpace cs) with
  | [] => some []
  | rest => newline? rest

/-- A document in the middle of reading: what was read, and the header of the open table. -/
structure Progress where
  entries : Entries
  current : List String

/-- Reads a header behind its opening brackets, and opens its table. -/
def header (double : Bool) (p : Progress) (cs : List Char) : Option (Progress × List Char) := do
  let ((path, last), rest) ← key cs
  let rest ← match double, rest with
    | true, ']' :: ']' :: rest => some rest
    | false, ']' :: rest => some rest
    | _, _ => none
  let opened := if double then openElement last else openTable last
  let entries ← update .header opened path .header p.entries
  return (⟨entries, path ++ [last]⟩, rest)

/-- Reads a key with its value into the open table. -/
def assignment (p : Progress) (cs : List Char) : Option (Progress × List Char) := do
  let ((path, last), rest) ← key cs
  let rest ← match rest with
    | '=' :: rest => some rest
    | _ => none
  let (v, rest) ← value depthLimit (2 * rest.length + 2) (skipSpace rest)
  let entries ← update .header (putDotted path last v) p.current .header p.entries
  return ({ p with entries := entries }, rest)

/-- Reads lines up to the end of the text. -/
def lines : Nat → Progress → List Char → Option Entries
  | 0, _, _ => none
  | fuel + 1, p, cs =>
    match skipSpace cs with
    | [] => some p.entries
    | cs =>
      let read := match cs with
        | '[' :: '[' :: rest => header true p rest
        | '[' :: rest => header false p rest
        | '#' :: _ => some (p, cs)
        | '\n' :: _ => some (p, cs)
        | '\r' :: _ => some (p, cs)
        | _ => assignment p cs
      match read with
      | none => none
      | some (p, rest) =>
        match lineEnd? rest with
        | none => none
        | some [] => some p.entries
        | some rest => lines fuel p rest

/-- Reads a document; a byte order mark may precede it. -/
def readDocument? (text : String) : Option Entries :=
  let cs := match text.toList with
    | '\uFEFF' :: rest => rest
    | cs => cs
  lines (cs.length + 1) ⟨[], []⟩ cs

end Telemetry.Toml
